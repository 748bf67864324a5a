import TgWsProxy.Source.Std.Text
import TgWsProxy.Source.Ws.Frame

/-!
# WebSocket upgrade

The client side of the upgrade in `modules/ws.rs`: the request, the loop that reads
the response's head octet by octet, the scan of its lines, the checks on a 101 and
`RawWsClient::connect` on a stream that TCP and TLS have opened. SHA-1 and base64 are
the crates' functions; the random generator gives sixteen octets or fails with a text.

A slice of the source is a list of characters, and a list of octets where it is not
known to be UTF-8.
-/

set_option autoImplicit false

namespace TgWsProxy.Source.Ws
open Library Library.Io Source.Std

structure WsHandshake where
  status : UInt16
  redirected : Bool
  location : Option String
  deriving DecidableEq, Repr

structure WsHandshakeRequest where
  payload : String
  expectedAccept : String
  deriving DecidableEq, Repr

structure WsHandshakeResponse where
  status : UInt16
  location : Option String
  upgrade : Option String
  connection : Option String
  accept : Option String
  protocol : Option String
  deriving DecidableEq, Repr

def wsGuid : Bytes := utf8 "258EAFA5-E914-47DA-95CA-C5AB0DC85B11"

def maxHandshakeHeaderSize : Nat := 8192

/-! ## The request -/

section Request
variable (sha1 : Bytes → Bytes) (base64 : Bytes → String)

def websocketKey (random : Except String Bytes) : Except WsError String :=
  match random with
  | .ok key => .ok (base64 key)
  | .error err => .error (.handshake ("ws key generation failed: " ++ err))

def websocketAccept (key : String) : String := base64 (sha1 (utf8 key ++ wsGuid))

def handshakePayload (domain key : String) : String :=
  "GET /apiws HTTP/1.1\r\n" ++
  "Host: " ++ domain ++ "\r\n" ++
  "Upgrade: websocket\r\n" ++
  "Connection: Upgrade\r\n" ++
  "Cache-Control: no-cache\r\n" ++
  "Pragma: no-cache\r\n" ++
  "Sec-WebSocket-Key: " ++ key ++ "\r\n" ++
  "Sec-WebSocket-Version: 13\r\n" ++
  "Sec-WebSocket-Protocol: binary\r\n" ++
  "Origin: https://web.telegram.org\r\n" ++
  "Accept-Encoding: gzip, deflate, br, zstd\r\n" ++
  "User-Agent: Mozilla/5.0 (X11; Linux x86_64) AppleWebKit/537.36 (KHTML, like Gecko) " ++
    "Chrome/145.0.0.0 Safari/537.36\r\n" ++
  "Sec-WebSocket-Extensions: permessage-deflate; client_max_window_bits\r\n" ++
  "\r\n"

def buildHandshakeRequestWithKey (domain key : String) : Except WsError WsHandshakeRequest :=
  .ok ⟨handshakePayload domain key, websocketAccept sha1 base64 key⟩

def buildHandshakeRequest (domain : String) (random : Except String Bytes) :
    Except WsError WsHandshakeRequest := do
  let key ← websocketKey base64 random
  buildHandshakeRequestWithKey sha1 base64 domain key

end Request

/-! ## The response -/

/-- The blank line that ends a head. -/
def headEnd : Bytes := [13, 10, 13, 10]

/-- The loop of `read_handshake_headers` with the room it has left. Its test on the last
two octets spares the one on the last four and decides nothing. -/
def readHeadersWithin : Nat → Bytes → Io WsError Bytes
  | 0, header =>
    if headEnd.isSuffixOf header then return header
    else fail (.handshake "oversized_handshake_headers")
  | room + 1, header => do
    match ← readOctet with
    | none => fail (.handshake "connection closed")
    | some b =>
      if headEnd.isSuffixOf (header ++ [b]) then return header ++ [b]
      else readHeadersWithin room (header ++ [b])

def readHandshakeHeaders : Io WsError Bytes := readHeadersWithin maxHandshakeHeaderSize []

def parseStatus (line : Bytes) : Except WsError UInt16 :=
  match (splitWhitespace (fromUtf8Lossy line).toList)[1]? with
  | none => .error (.handshake "bad response")
  | some status =>
    match parseU16 status with
    | none => .error (.handshake "bad status")
    | some status => .ok status

/-- The slot that a header line overwrites, if it has one. -/
def WsHandshakeResponse.setHeader (response : WsHandshakeResponse) (name : List Char)
    (value : String) : WsHandshakeResponse :=
  if eqIgnoreAsciiCase name "location".toList then { response with location := some value }
  else if eqIgnoreAsciiCase name "upgrade".toList then { response with upgrade := some value }
  else if eqIgnoreAsciiCase name "connection".toList then { response with connection := some value }
  else if eqIgnoreAsciiCase name "sec-websocket-accept".toList then
    { response with accept := some value }
  else if eqIgnoreAsciiCase name "sec-websocket-protocol".toList then
    { response with protocol := some value }
  else response

/-- `from_utf8(line).unwrap_or_default().trim_end_matches('\r')`. -/
def headerText (line : Bytes) : List Char :=
  trimEnd (fun c => c == '\r') ((fromUtf8 line).getD "").toList

/-- The loop over the lines behind the status line. -/
def parseHeaderLines : List Bytes → WsHandshakeResponse → Except WsError WsHandshakeResponse
  | [], response => .ok response
  | line :: lines, response =>
    if line = [13] ∨ line = [] then .ok response
    else
      match splitOnce ':' (headerText line) with
      | none => .error (.handshake "malformed_handshake_header")
      | some (name, value) =>
        parseHeaderLines lines (response.setHeader name (String.ofList (trim value)))

def parseHandshakeResponse (header : Bytes) : Except WsError WsHandshakeResponse := do
  let lines := header.splitOn 10
  let status ← parseStatus (lines.headD [])
  parseHeaderLines lines.tail ⟨status, none, none, none, none, none⟩

def hasHeaderToken (value token : List Char) : Bool :=
  ((value.splitOn ',').map trim).any fun part => eqIgnoreAsciiCase part token

/-- One check: a slot is filled with a value that passes. -/
def checkHeader (slot : Option String) (passes : String → Bool) (unexpected missing : String) :
    Except WsError Unit :=
  match slot with
  | some value => if passes value then .ok () else .error (.handshake unexpected)
  | none => .error (.handshake missing)

def validateHandshakeResponse (response : WsHandshakeResponse) (expectedAccept : String) :
    Except WsError Unit := do
  checkHeader response.upgrade (fun value => eqIgnoreAsciiCase value.toList "websocket".toList)
    "missing_upgrade" "missing_upgrade"
  checkHeader response.connection (fun value => hasHeaderToken value.toList "upgrade".toList)
    "missing_connection_upgrade" "missing_connection_upgrade"
  checkHeader response.accept (fun value => value == expectedAccept)
    "invalid_ws_accept" "missing_ws_accept"
  checkHeader response.protocol (fun value => value == "binary")
    "unexpected_ws_protocol" "missing_ws_protocol"

/-! ## The handshake -/

section Handshake
variable (sha1 : Bytes → Bytes) (base64 : Bytes → String)

def performHandshake (domain : String) (random : Except String Bytes) : Io WsError WsHandshake := do
  let request ← ofExcept (buildHandshakeRequest sha1 base64 domain random)
  writeAll (utf8 request.payload)
  let header ← readHandshakeHeaders
  let response ← ofExcept (parseHandshakeResponse header)
  if response.status = 101 then
    ofExcept (validateHandshakeResponse response request.expectedAccept)
  return ⟨response.status, 301 ≤ response.status && response.status < 400, response.location⟩

/-- `RawWsClient::connect` from what `connect_raw` gives: an open stream or an error. -/
def RawWsClient.connect (opened : Except WsError Duplex) (domain : String)
    (random : Except String Bytes) : Except WsError Duplex := do
  let stream ← opened
  match (performHandshake sha1 base64 domain random).run stream with
  | (.error err, _) => .error err
  | (.ok hs, stream) =>
    if hs.status ≠ 101 then .error (.httpStatus hs.status hs.location) else return stream

end Handshake

end TgWsProxy.Source.Ws
