import TgWsProxy.Source.Ws.Handshake

/-!
# WebSocket client

What stands around the handshake and the codec in `modules/ws.rs`: `connect_raw`, which
opens TCP and then TLS to port 443 of a domain, `RawWsClient::connect` and `handshake` on
top of it, and the two loops `recv` that wait for a message. The network's answers are
given: what the two connections come to within the timeout, and whether the TLS library
takes the domain for a server name.
-/

set_option autoImplicit false

namespace TgWsProxy.Source.Ws
open Library Library.Io Source.Std

/-- What a domain's server and the resolver in front of it make of one `connect_raw`;
`none` is a timeout. -/
structure Dial where
  tcp : Option (Except IoError Unit)
  serverName : Except String Unit
  tls : Option (Except String Duplex)
  deriving DecidableEq

def connectRaw (dial : Dial) : Except WsError Duplex :=
  match dial.tcp with
  | none => .error .timeout
  | some (.error err) => .error (.io err)
  | some (.ok ()) =>
    match dial.serverName with
    | .error err => .error (.tls ("invalid server name: " ++ err))
    | .ok () =>
      match dial.tls with
      | none => .error .timeout
      | some (.error err) => .error (.tls err)
      | some (.ok stream) => .ok stream

/-! ## Messages -/

/-- `RawWsClient::recv`; the fuel bounds the frames skipped and `random` gives the mask
keys of the Pongs that are sent. -/
def RawWsClient.recvWithin : Nat → (Nat → Option MaskKey) → Io Stop (Option Bytes)
  | 0, _ => return none
  | fuel + 1, random => do
    match ← readFrame with
    | some (.binary payload) => return some payload
    | some (.ping payload) =>
      writeAll (buildFrameWithOpcode (random 0) 0xA payload)
      RawWsClient.recvWithin fuel fun idx => random (idx + 1)
    | some (.pong _) => RawWsClient.recvWithin fuel random
    | some (.close _) => return none
    | some (.other _) => return none
    | none => return none

def RawWsClient.recv (random : Nat → Option MaskKey) : Io Stop (Option Bytes) :=
  ⟨fun s => (RawWsClient.recvWithin (s.input.length + 1) random).run s⟩

/-- `RawWsReader::recv`, with the same bound. -/
def RawWsReader.recvWithin : Nat → Io Stop (Option Bytes)
  | 0 => return none
  | fuel + 1 => do
    match ← recvFrame with
    | some (.binary payload) => return some payload
    | some (.ping _) => RawWsReader.recvWithin fuel
    | some (.close _) => return none
    | none => return none

def RawWsReader.recv : Io Stop (Option Bytes) :=
  ⟨fun s => (RawWsReader.recvWithin (s.input.length + 1)).run s⟩

/-! ## Connections -/

section Connect
variable (sha1 : Bytes → Bytes) (base64 : Bytes → String)

/-- `handshake`: the response as it is, whatever its status. -/
def handshake (dial : Dial) (domain : String) (random : Except String Bytes) :
    Except WsError WsHandshake := do
  let stream ← connectRaw dial
  ((performHandshake sha1 base64 domain random).run stream).1

/-- The answers that `connect_ws_route` gets from a domain: the connections and the octets
of the random generator. -/
structure Answer where
  dial : Dial
  random : Except String Bytes
  deriving DecidableEq

/-- What `RawWsClient::connect` on the domain comes to for the loop over the domains. -/
def connectThrough (answers : String → Answer) (domain : String) : Option WsError :=
  match RawWsClient.connect sha1 base64 (connectRaw (answers domain).dial) domain
      (answers domain).random with
  | .ok _ => none
  | .error err => some err

end Connect

end TgWsProxy.Source.Ws
