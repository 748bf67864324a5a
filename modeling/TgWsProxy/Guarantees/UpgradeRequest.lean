import TgWsProxy.Guarantees.WsUpgrade
import TgWsProxy.Source.Telegram.Catalog

/-!
# What the client asks for

The request for every domain of every route is a head like the responses are: a request
line and header lines, each name once, among them all that an upgrade needs
(`AsksUpgrade`). A server that reads the key from these octets and answers with a valid
upgrade for it is accepted, and the client is left with the frames behind the answer.
-/

set_option autoImplicit false

namespace TgWsProxy.Guarantees.UpgradeRequest
open Library Library.Io Library.Tokens Source.Std Source.Telegram Source.Ws WsUpgrade

/-- The value of the first line of this name, in any letter case. -/
def valueOf (lines : List HeaderLine) (name : String) : Option String :=
  (lines.find? fun line => eqIgnoreAsciiCase line.name.toList name.toList).map HeaderLine.trimmed

/-- What a server has to find in a request to upgrade to a WebSocket. -/
structure AsksUpgrade (domain key : String) (lines : List HeaderLine) : Prop where
  once : (lines.map fun line => line.name.toList.map Char.toLower).Nodup
  host : valueOf lines "host" = some domain
  upgrade : valueOf lines "upgrade" = some "websocket"
  connection : valueOf lines "connection" = some "Upgrade"
  key : valueOf lines "sec-websocket-key" = some key
  version : valueOf lines "sec-websocket-version" = some "13"
  protocol : valueOf lines "sec-websocket-protocol" = some "binary"

/-- Where names do not repeat, each line is the one that is found for its name. -/
theorem valueOf_of_mem (lines : List HeaderLine) (line : HeaderLine) (name : String)
    (once : (lines.map fun line => line.name.toList.map Char.toLower).Nodup) (mem : line ∈ lines)
    (named : eqIgnoreAsciiCase line.name.toList name.toList = true) :
    valueOf lines name = some line.trimmed := by
  induction lines with
  | nil => cases mem
  | cons first rest ih =>
    rw [List.map_cons, List.nodup_cons] at once
    unfold valueOf
    cases hfirst : eqIgnoreAsciiCase first.name.toList name.toList with
    | true =>
      simp only [List.find?_cons, hfirst]
      rcases List.mem_cons.mp mem with rfl | hmem
      · rfl
      · have hsame : first.name.toList.map Char.toLower = line.name.toList.map Char.toLower :=
          (beq_iff_eq.mp hfirst).trans (beq_iff_eq.mp named).symm
        exact absurd (hsame ▸ List.mem_map_of_mem hmem) once.1
    | false =>
      simp only [List.find?_cons, hfirst]
      rcases List.mem_cons.mp mem with rfl | hmem
      · rw [named] at hfirst
        cases hfirst
      · exact ih once.2 hmem

/-- A text without white space. -/
def Solid (text : String) : Prop := ∀ c ∈ text.toList, isWhitespace c = false

instance (text : String) : Decidable (Solid text) :=
  List.decidableBAll (fun c => isWhitespace c = false) text.toList

theorem Solid.oneLine (text : String) (solid : Solid text) : OneLine (" " ++ text) := by
  have hbreak : ∀ c, isWhitespace c = true → c ≠ ' ' → c ∉ (" " ++ text).toList := by
    intro c hspace hother hmem
    rw [String.toList_append, List.mem_append] at hmem
    rcases hmem with hfirst | hlater
    · exact hother (by simpa using hfirst)
    · rw [solid c hlater] at hspace
      cases hspace
  exact ⟨hbreak '\r' rfl (by decide), hbreak '\n' rfl (by decide)⟩

/-- The blank behind the colon is not part of the value. -/
theorem Solid.trim_eq (text : String) (solid : Solid text) :
    String.ofList (trim (" " ++ text).toList) = text := by
  have hends : ∀ c ∈ text.toList.getLast?, isWhitespace c = false :=
    fun c hc => solid c (List.mem_of_getLast? hc)
  have hstarts : ∀ c ∈ text.toList.head?, isWhitespace c = false :=
    fun c hc => solid c (List.mem_of_head? hc)
  rw [String.toList_append, trim_eq_strip]
  show String.ofList (strip isWhitespace (' ' :: text.toList)) = text
  rw [strip_cons ' ' _ rfl, strip_eq_self _ hstarts hends, String.ofList_toList]

theorem solid_append (front back : String) (first : Solid front) (second : Solid back) :
    Solid (front ++ back) := by
  intro c hc
  rw [String.toList_append, List.mem_append] at hc
  rcases hc with hc | hc
  · exact first c hc
  · exact second c hc

theorem solid_of_digit (c : Char) (digit : Numerals.isDigit 10 c = true) : isWhitespace c = false := by
  have hrange : 48 ≤ c.toNat ∧ c.toNat ≤ 122 := by
    unfold Numerals.isDigit Numerals.toDigit at digit
    split_ifs at digit with hdecimal hlower hupper
    · exact ⟨hdecimal.1, Nat.le_trans hdecimal.2 (by decide)⟩
    · exact ⟨Nat.le_trans (by decide) hlower.1, hlower.2⟩
    · exact ⟨Nat.le_trans (by decide) hupper.1, Nat.le_trans hupper.2 (by decide)⟩
    · cases digit
  simp [isWhitespace]
  omega

theorem solid_toString (n : Nat) : Solid (toString n) := by
  intro c hc
  have hdigits : (toString n).toList = Nat.toDigits 10 n := Nat.toList_repr
  rw [hdigits] at hc
  exact solid_of_digit c (Numerals.isDigit_of_mem_toDigits 10 n (by decide) (by decide) c hc)

/-! ## The request -/

def requestLine : String := "GET /apiws HTTP/1.1"

def userAgent : String :=
  " Mozilla/5.0 (X11; Linux x86_64) AppleWebKit/537.36 (KHTML, like Gecko) " ++
    "Chrome/145.0.0.0 Safari/537.36"

theorem userAgent_oneLine : OneLine userAgent := by decide +kernel

/-- A name and a value that may stand on a header line. -/
structure WellFormed (name value : String) : Prop where
  noColon : ':' ∉ name.toList
  nameOneLine : OneLine name
  valueOneLine : OneLine value

def lineOf (name value : String) (formed : WellFormed name value) : HeaderLine :=
  ⟨name, value, formed.noColon, formed.nameOneLine, formed.valueOneLine⟩

def requestLines (domain key : String) (host : Solid domain) (plain : Solid key) : List HeaderLine :=
  [lineOf "Host" (" " ++ domain) ⟨by decide, by decide, host.oneLine⟩,
    lineOf "Upgrade" " websocket" ⟨by decide, by decide, by decide⟩,
    lineOf "Connection" " Upgrade" ⟨by decide, by decide, by decide⟩,
    lineOf "Cache-Control" " no-cache" ⟨by decide, by decide, by decide⟩,
    lineOf "Pragma" " no-cache" ⟨by decide, by decide, by decide⟩,
    lineOf "Sec-WebSocket-Key" (" " ++ key) ⟨by decide, by decide, plain.oneLine⟩,
    lineOf "Sec-WebSocket-Version" " 13" ⟨by decide, by decide, by decide⟩,
    lineOf "Sec-WebSocket-Protocol" " binary" ⟨by decide, by decide, by decide⟩,
    lineOf "Origin" " https://web.telegram.org" ⟨by decide, by decide, by decide⟩,
    lineOf "Accept-Encoding" " gzip, deflate, br, zstd" ⟨by decide, by decide, by decide⟩,
    lineOf "User-Agent" userAgent ⟨by decide, by decide, userAgent_oneLine⟩,
    lineOf "Sec-WebSocket-Extensions" " permessage-deflate; client_max_window_bits"
      ⟨by decide, by decide, by decide⟩]

theorem encode_text (line : HeaderLine) :
    line.encode = utf8 (line.name ++ ":" ++ line.value ++ "\r\n") := by
  have hend : ([13, 10] : Bytes) = utf8 "\r\n" := by decide
  rw [HeaderLine.encode, hend, ← utf8_append]
  rfl

theorem responseHead_text (statusLine : String) (lines : List HeaderLine) :
    responseHead statusLine lines =
      utf8 (statusLine ++ "\r\n") ++ lines.flatMap HeaderLine.encode ++ utf8 "\r\n" := by
  have hend : ([13, 10] : Bytes) = utf8 "\r\n" := by decide
  rw [responseHead, hend, ← utf8_append]

/-- The payload cut at its line ends; the texts are variables to keep them from being
computed. -/
theorem payload_lines (get host domain stop upgrade connection cache pragma name key version
      protocol origin encoding agent chrome extensions last : String) :
    utf8 (get ++ host ++ domain ++ stop ++ upgrade ++ connection ++ cache ++ pragma ++ name ++ key ++
        stop ++ version ++ protocol ++ origin ++ encoding ++ agent ++ chrome ++ extensions ++ last) =
      utf8 get ++ [host ++ domain ++ stop, upgrade, connection, cache, pragma, name ++ key ++ stop,
        version, protocol, origin, encoding, agent ++ chrome, extensions].flatMap utf8 ++ utf8 last := by
  simp [utf8_append]

theorem requestLines_texts (domain key : String) (host : Solid domain) (plain : Solid key) :
    (requestLines domain key host plain).map (fun line => line.name ++ ":" ++ line.value ++ "\r\n") =
      ["Host: " ++ domain ++ "\r\n", "Upgrade: websocket\r\n", "Connection: Upgrade\r\n",
        "Cache-Control: no-cache\r\n", "Pragma: no-cache\r\n", "Sec-WebSocket-Key: " ++ key ++ "\r\n",
        "Sec-WebSocket-Version: 13\r\n", "Sec-WebSocket-Protocol: binary\r\n",
        "Origin: https://web.telegram.org\r\n", "Accept-Encoding: gzip, deflate, br, zstd\r\n",
        "User-Agent: Mozilla/5.0 (X11; Linux x86_64) AppleWebKit/537.36 (KHTML, like Gecko) " ++
          "Chrome/145.0.0.0 Safari/537.36\r\n",
        "Sec-WebSocket-Extensions: permessage-deflate; client_max_window_bits\r\n"] := by
  have hhost : "Host" ++ ":" ++ (" " ++ domain) ++ "\r\n" = "Host: " ++ domain ++ "\r\n" := by
    rw [← String.append_assoc]
    rfl
  have hkey : "Sec-WebSocket-Key" ++ ":" ++ (" " ++ key) ++ "\r\n" =
      "Sec-WebSocket-Key: " ++ key ++ "\r\n" := by
    rw [← String.append_assoc]
    rfl
  simp only [requestLines, lineOf, List.map_cons, List.map_nil, hhost, hkey]
  rfl

/-- The text of the request, line by line. -/
theorem handshakePayload_eq (domain key : String) (host : Solid domain) (plain : Solid key) :
    utf8 (handshakePayload domain key) =
      responseHead requestLine (requestLines domain key host plain) := by
  have hget : requestLine ++ "\r\n" = "GET /apiws HTTP/1.1\r\n" := rfl
  have hencode : HeaderLine.encode =
      fun line => utf8 (line.name ++ ":" ++ line.value ++ "\r\n") := funext encode_text
  rw [responseHead_text, hget, hencode, ← List.flatMap_map, requestLines_texts]
  exact payload_lines ..

theorem requestLines_names (domain key : String) (host : Solid domain) (plain : Solid key) :
    (requestLines domain key host plain).map HeaderLine.name =
      ["Host", "Upgrade", "Connection", "Cache-Control", "Pragma", "Sec-WebSocket-Key",
        "Sec-WebSocket-Version", "Sec-WebSocket-Protocol", "Origin", "Accept-Encoding", "User-Agent",
        "Sec-WebSocket-Extensions"] := by
  simp only [requestLines, lineOf, List.map_cons, List.map_nil]

theorem requestLines_once (domain key : String) (host : Solid domain) (plain : Solid key) :
    ((requestLines domain key host plain).map
      fun line => line.name.toList.map Char.toLower).Nodup := by
  have hnames : (requestLines domain key host plain).map
        (fun line => line.name.toList.map Char.toLower) =
      ((requestLines domain key host plain).map HeaderLine.name).map
        fun name => name.toList.map Char.toLower := by
    rw [List.map_map]
    rfl
  rw [hnames, requestLines_names]
  decide +kernel

/-- A line of the request answers for its name in any letter case. -/
theorem valueOf_requestLines (domain key : String) (host : Solid domain) (plain : Solid key)
    (name field text value : String)
    (mem : ∃ line ∈ requestLines domain key host plain, line.name = field ∧ line.value = text)
    (named : eqIgnoreAsciiCase field.toList name.toList = true)
    (trimmed : String.ofList (trim text.toList) = value) :
    valueOf (requestLines domain key host plain) name = some value := by
  rcases mem with ⟨line, hmem, rfl, rfl⟩
  rw [valueOf_of_mem _ line name (requestLines_once domain key host plain) hmem named, ← trimmed]
  rfl

theorem requestLines_upgrade (domain key : String) (host : Solid domain) (plain : Solid key) :
    AsksUpgrade domain key (requestLines domain key host plain) := by
  have hvalue := valueOf_requestLines domain key host plain
  exact {
    once := requestLines_once domain key host plain
    host := hvalue "host" "Host" _ _ (by simp [requestLines, lineOf]) (by decide) host.trim_eq
    upgrade := hvalue "upgrade" "Upgrade" " websocket" _ (by simp [requestLines, lineOf])
      (by decide) (by decide)
    connection := hvalue "connection" "Connection" " Upgrade" _ (by simp [requestLines, lineOf])
      (by decide) (by decide)
    key := hvalue "sec-websocket-key" "Sec-WebSocket-Key" _ _ (by simp [requestLines, lineOf])
      (by decide) plain.trim_eq
    version := hvalue "sec-websocket-version" "Sec-WebSocket-Version" " 13" _
      (by simp [requestLines, lineOf]) (by decide) (by decide)
    protocol := hvalue "sec-websocket-protocol" "Sec-WebSocket-Protocol" " binary" _
      (by simp [requestLines, lineOf]) (by decide) (by decide) }

theorem wsDomains_solid (dc : UInt8) (isMedia : Bool) :
    ∀ domain ∈ wsDomains dc isMedia, Solid domain := by
  have hkws : Solid "kws" := by decide
  have hplain : Solid ("kws" ++ toString dc.toNat ++ ".web.telegram.org") :=
    solid_append _ _ (solid_append _ _ hkws (solid_toString _)) (by decide)
  have hmedia : Solid ("kws" ++ toString dc.toNat ++ "-1.web.telegram.org") :=
    solid_append _ _ (solid_append _ _ hkws (solid_toString _)) (by decide)
  cases isMedia with
  | false => exact List.forall_mem_cons.mpr ⟨hplain, List.forall_mem_singleton.mpr hmedia⟩
  | true => exact List.forall_mem_cons.mpr ⟨hmedia, List.forall_mem_singleton.mpr hplain⟩

/-! ## The answer -/

variable (sha1 : Bytes → Bytes) (base64 : Bytes → String)

/-- For every route, domain and nonce the octets that go out are an upgrade request with a
key of its own, and every valid upgrade for the key that can be read from them is accepted;
the frames behind it are what is read next. -/
theorem upgrade_completes (dc : UInt8) (isMedia : Bool) (domain : String) (nonce : Bytes)
    (listed : domain ∈ wsDomains dc isMedia) (plain : Solid (base64 nonce)) :
    ∃ lines, AsksUpgrade domain (base64 nonce) lines ∧
      ∀ key, valueOf lines "sec-websocket-key" = some key →
        ∀ (statusLine : String) (answer : List HeaderLine) (frames : Bytes), OneLine statusLine →
          AtMostOnce answer → (responseHead statusLine answer).length ≤ maxHandshakeHeaderSize →
          ValidUpgrade (websocketAccept sha1 base64 key) statusLine answer →
          RawWsClient.connect sha1 base64 (.ok ⟨responseHead statusLine answer ++ frames, []⟩) domain
              (.ok nonce) = .ok ⟨frames, responseHead requestLine lines⟩ := by
  have hsolid := wsDomains_solid dc isMedia domain listed
  have hasks := requestLines_upgrade domain (base64 nonce) hsolid plain
  refine ⟨requestLines domain (base64 nonce) hsolid plain, hasks, ?_⟩
  intro key hread statusLine answer frames oneLine once fits valid
  have hkey : base64 nonce = key := Option.some.inj (hasks.key.symm.trans hread)
  subst hkey
  have hrun := performHandshake_head sha1 base64 domain statusLine answer nonce frames [] oneLine fits
  rw [parseHandshakeResponse_head statusLine answer oneLine,
    (announcedStatus_ok_iff statusLine 101).mpr valid.1, List.nil_append,
    handshakePayload_eq domain (base64 nonce) hsolid plain] at hrun
  have hchecked := (validate_scanLines_iff _ 101 answer once).mpr valid.2
  rcases (judge_ok_101_iff _ _).mpr ⟨scanLines_status answer _, hchecked⟩ with ⟨hs, hjudged, h101⟩
  exact (connect_ok_iff sha1 base64 _ _ _ _).mpr ⟨hs, hrun.trans (by rw [← hjudged]; rfl), h101⟩

theorem upgrade_completes_rfc_sample :
    ∃ lines, AsksUpgrade "kws2.web.telegram.org" (sampleBase64 sampleNonce) lines ∧
      RawWsClient.connect sampleSha1 sampleBase64
          (.ok ⟨responseHead "HTTP/1.1 101 Switching Protocols" sampleLines ++ firstFrame, []⟩)
          "kws2.web.telegram.org" (.ok sampleNonce) =
        .ok ⟨firstFrame, responseHead requestLine lines⟩ := by
  rcases upgrade_completes sampleSha1 sampleBase64 2 false "kws2.web.telegram.org" sampleNonce
    (by decide +kernel) (by decide +kernel) with ⟨lines, asks, completes⟩
  exact ⟨lines, asks, completes _ asks.key "HTTP/1.1 101 Switching Protocols" sampleLines firstFrame
    (by decide) (fun header => by cases header <;> decide) (by decide +kernel) sampleLines_valid⟩

end TgWsProxy.Guarantees.UpgradeRequest
