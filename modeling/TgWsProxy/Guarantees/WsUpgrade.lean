import TgWsProxy.Source.Ws.ResponseHead

/-!
# Which upgrade responses are accepted

The client checks four headers of a 101. When each occurs at most once, the handshake
succeeds exactly on a valid upgrade (`upgrade_accepted_iff`), in any order and letter
case and among any other headers.

When a header is repeated its last line decides. The verdict is then the same for
every order of the lines only in three cases: the status cannot be read, some header
has no acceptable line at all, or no line of the four is unacceptable
(`order_free_iff`).
-/

set_option autoImplicit false

namespace TgWsProxy.Guarantees.WsUpgrade
open Library Library.Io Source.Std Source.Ws

/-- The headers that an upgrade is checked for. -/
inductive CheckedHeader where
  | upgrade | connection | accept | protocol
  deriving DecidableEq, Repr

namespace CheckedHeader

def name (header : CheckedHeader) : String :=
  match header with
  | .upgrade => "Upgrade"
  | .connection => "Connection"
  | .accept => "Sec-WebSocket-Accept"
  | .protocol => "Sec-WebSocket-Protocol"

def lowerName (header : CheckedHeader) : String :=
  match header with
  | .upgrade => "upgrade"
  | .connection => "connection"
  | .accept => "sec-websocket-accept"
  | .protocol => "sec-websocket-protocol"

/-- The values that the header may have, white space around them left out. -/
def accepts (header : CheckedHeader) (expectedAccept value : String) : Bool :=
  match header with
  | .upgrade => eqIgnoreAsciiCase value.toList "websocket".toList
  | .connection => hasHeaderToken value.toList "upgrade".toList
  | .accept => value == expectedAccept
  | .protocol => value == "binary"

def slot (header : CheckedHeader) (response : WsHandshakeResponse) : Option String :=
  match header with
  | .upgrade => response.upgrade
  | .connection => response.connection
  | .accept => response.accept
  | .protocol => response.protocol

end CheckedHeader

theorem CheckedHeader.forall_iff (P : CheckedHeader → Prop) :
    (∀ header, P header) ↔ P .upgrade ∧ P .connection ∧ P .accept ∧ P .protocol := by
  constructor
  · intro h
    exact ⟨h .upgrade, h .connection, h .accept, h .protocol⟩
  · intro h header
    obtain ⟨hupgrade, hconnection, haccept, hprotocol⟩ := h
    cases header with
    | upgrade => exact hupgrade
    | connection => exact hconnection
    | accept => exact haccept
    | protocol => exact hprotocol

/-- A line with the header's name, in any letter case. -/
def isNamed (line : HeaderLine) (header : CheckedHeader) : Bool :=
  eqIgnoreAsciiCase line.name.toList header.name.toList

/-- The value that the scan leaves in the header's slot. -/
def lastValue (lines : List HeaderLine) (header : CheckedHeader) : Option String :=
  (lines.filter (isNamed · header)).getLast?.map HeaderLine.trimmed

/-! ## The scan and the checks -/

/-- Comparing without case to a text in lower case. -/
theorem eqIgnoreAsciiCase_iff (name : List Char) (target lower : String)
    (lowered : target.toList.map Char.toLower = lower.toList) :
    eqIgnoreAsciiCase name target.toList = true ↔ String.ofList (name.map Char.toLower) = lower := by
  rw [eqIgnoreAsciiCase, beq_iff_eq, lowered, ← String.toList_inj, String.toList_ofList]

theorem named_iff (name : List Char) (header : CheckedHeader) :
    eqIgnoreAsciiCase name header.name.toList = true ↔
      String.ofList (name.map Char.toLower) = header.lowerName := by
  apply eqIgnoreAsciiCase_iff
  cases header <;> decide

theorem slot_setHeader (response : WsHandshakeResponse) (name : List Char) (value : String)
    (header : CheckedHeader) :
    header.slot (response.setHeader name value) =
      if eqIgnoreAsciiCase name header.name.toList then some value else header.slot response := by
  have hlocation := eqIgnoreAsciiCase_iff name "location" "location" (by decide)
  have hupgrade := eqIgnoreAsciiCase_iff name "upgrade" "upgrade" (by decide)
  have hconnection := eqIgnoreAsciiCase_iff name "connection" "connection" (by decide)
  have haccept := eqIgnoreAsciiCase_iff name "sec-websocket-accept" "sec-websocket-accept" (by decide)
  have hprotocol := eqIgnoreAsciiCase_iff name "sec-websocket-protocol" "sec-websocket-protocol"
    (by decide)
  unfold WsHandshakeResponse.setHeader
  simp only [hlocation, hupgrade, hconnection, haccept, hprotocol, named_iff]
  generalize String.ofList (name.map Char.toLower) = lower
  cases header <;> simp only [CheckedHeader.slot, CheckedHeader.lowerName] <;> grind

/-- The last line of a header's name decides its slot. -/
theorem slot_scanLines (lines : List HeaderLine) (response : WsHandshakeResponse)
    (header : CheckedHeader) (empty : header.slot response = none) :
    header.slot (scanLines lines response) = lastValue lines header := by
  induction lines using List.reverseRecOn with
  | nil => exact empty
  | append_singleton lines line ih =>
    have hscan : scanLines (lines ++ [line]) response =
        (scanLines lines response).setHeader line.name.toList line.trimmed := by
      simp [scanLines]
    rw [hscan, slot_setHeader, ih]
    unfold lastValue
    rw [List.filter_append]
    cases hnamed : isNamed line header with
    | true =>
      rw [isNamed] at hnamed
      simp [hnamed, isNamed]
    | false =>
      rw [isNamed] at hnamed
      simp [hnamed, isNamed]

theorem checkHeader_ok_iff (slot : Option String) (passes : String → Bool)
    (unexpected missing : String) :
    checkHeader slot passes unexpected missing = .ok () ↔
      ∃ value, slot = some value ∧ passes value = true := by
  unfold checkHeader
  cases slot with
  | none => simp
  | some value => cases hpasses : passes value <;> simp [hpasses]

/-- A sequence of checks passes if each of them does. -/
theorem check_then_ok_iff (check next : Except WsError Unit) :
    (check >>= fun _ => next) = .ok () ↔ check = .ok () ∧ next = .ok () := by
  cases check with
  | error err =>
    constructor
    · intro h
      cases h
    · intro h
      cases h.1
  | ok passed => exact ⟨fun h => ⟨rfl, h⟩, fun h => h.2⟩

theorem validate_ok_iff (response : WsHandshakeResponse) (expectedAccept : String) :
    validateHandshakeResponse response expectedAccept = .ok () ↔
      ∀ header : CheckedHeader, ∃ value, header.slot response = some value ∧
        header.accepts expectedAccept value = true := by
  unfold validateHandshakeResponse
  rw [CheckedHeader.forall_iff]
  simp only [check_then_ok_iff, checkHeader_ok_iff]
  rfl

/-- The checks on a scan look at the last line of each header. -/
theorem validate_scan_iff (expectedAccept : String) (status : UInt16) (lines : List HeaderLine) :
    validateHandshakeResponse (scanLines lines ⟨status, none, none, none, none, none⟩) expectedAccept =
        .ok () ↔
      ∀ header : CheckedHeader, ∃ value, lastValue lines header = some value ∧
        header.accepts expectedAccept value = true := by
  have hempty : ∀ header : CheckedHeader,
      header.slot ⟨status, none, none, none, none, none⟩ = none := by
    intro header
    cases header <;> rfl
  rw [validate_ok_iff]
  simp only [slot_scanLines lines _ _ (hempty _)]

/-! ## One handshake -/

/-- The second token of the status line parses to 101. -/
def Announces101 (statusLine : String) : Prop :=
  (splitWhitespace statusLine.toList)[1]?.bind parseU16 = some 101

/-- The announced status is 101, and each checked header has an acceptable line. -/
def ValidUpgrade (expectedAccept statusLine : String) (lines : List HeaderLine) : Prop :=
  Announces101 statusLine ∧ ∀ header : CheckedHeader, ∃ line ∈ lines,
    isNamed line header = true ∧ header.accepts expectedAccept line.trimmed = true

/-- No checked header is repeated. -/
def AtMostOnce (lines : List HeaderLine) : Prop :=
  ∀ header : CheckedHeader, (lines.filter (isNamed · header)).length ≤ 1

theorem announcedStatus_ok_iff (statusLine : String) (status : UInt16) :
    announcedStatus statusLine = .ok status ↔
      (splitWhitespace statusLine.toList)[1]?.bind parseU16 = some status := by
  unfold announcedStatus
  cases (splitWhitespace statusLine.toList)[1]? with
  | none => simp
  | some token =>
    dsimp only [Option.bind_some]
    cases parseU16 token with
    | none => simp
    | some parsed => simp

/-- A header that occurs at most once has its only line's value in its slot. -/
theorem lastValue_of_once (lines : List HeaderLine) (header : CheckedHeader) (value : String)
    (once : (lines.filter (isNamed · header)).length ≤ 1) :
    lastValue lines header = some value ↔
      ∃ line ∈ lines, isNamed line header = true ∧ line.trimmed = value := by
  have hmem := fun line => @List.mem_filter _ (isNamed · header) lines line
  unfold lastValue
  cases hfilter : lines.filter (isNamed · header) with
  | nil =>
    rw [hfilter] at hmem
    simp only [List.getLast?_nil, Option.map_none, reduceCtorEq, false_iff, not_exists, not_and]
    intro line hline hnamed
    have hnone := (hmem line).mpr ⟨hline, hnamed⟩
    cases hnone
  | cons only rest =>
    rw [hfilter] at hmem once
    have hrest : rest = [] := by
      simp only [List.length_cons] at once
      exact List.eq_nil_of_length_eq_zero (by omega)
    subst hrest
    simp only [List.getLast?_singleton, Option.map_some, Option.some.injEq]
    constructor
    · intro hvalue
      obtain ⟨hline, hnamed⟩ := (hmem only).mp List.mem_cons_self
      exact ⟨only, hline, hnamed, hvalue⟩
    · intro ⟨line, hline, hnamed, hvalue⟩
      obtain rfl := List.mem_singleton.mp ((hmem line).mpr ⟨hline, hnamed⟩)
      exact hvalue

theorem scanLines_status (lines : List HeaderLine) (response : WsHandshakeResponse) :
    (scanLines lines response).status = response.status := by
  induction lines generalizing response with
  | nil => rfl
  | cons line lines ih =>
    show (scanLines lines (response.setHeader line.name.toList line.trimmed)).status = _
    rw [ih]
    unfold WsHandshakeResponse.setHeader
    simp only [apply_ite WsHandshakeResponse.status, ite_self]

/-- The checks on a scanned response, which are made on a 101 only. -/
def judge (expectedAccept : String) (response : WsHandshakeResponse) : Except WsError WsHandshake :=
  if response.status = 101 then
    (validateHandshakeResponse response expectedAccept).map fun _ => ⟨101, false, response.location⟩
  else
    .ok ⟨response.status, 301 ≤ response.status && response.status < 400, response.location⟩

theorem judge_ok_101_iff (expectedAccept : String) (response : WsHandshakeResponse) :
    (∃ hs, judge expectedAccept response = .ok hs ∧ hs.status = 101) ↔
      response.status = 101 ∧ validateHandshakeResponse response expectedAccept = .ok () := by
  unfold judge
  by_cases hstatus : response.status = 101
  · rw [if_pos hstatus]
    cases validateHandshakeResponse response expectedAccept with
    | error err => simp [Except.map]
    | ok passed => simp [Except.map, hstatus]
  · rw [if_neg hstatus]
    simp [hstatus]

/-- A 101 is judged to be an error or a 101. -/
theorem judge_of_101 (expectedAccept : String) (response : WsHandshakeResponse)
    (h101 : response.status = 101) :
    (∃ err, judge expectedAccept response = .error err) ∨
      ∃ hs, judge expectedAccept response = .ok hs ∧ hs.status = 101 := by
  unfold judge
  rw [if_pos h101]
  cases validateHandshakeResponse response expectedAccept with
  | error err => exact .inl ⟨err, rfl⟩
  | ok passed => exact .inr ⟨_, rfl, rfl⟩

/-- The slots of a head without repeated headers pass the checks exactly if each checked
header has an acceptable line. -/
theorem validate_scanLines_iff (expectedAccept : String) (status : UInt16) (lines : List HeaderLine)
    (once : AtMostOnce lines) :
    validateHandshakeResponse (scanLines lines ⟨status, none, none, none, none, none⟩) expectedAccept =
        .ok () ↔
      ∀ header : CheckedHeader, ∃ line ∈ lines,
        isNamed line header = true ∧ header.accepts expectedAccept line.trimmed = true := by
  rw [validate_scan_iff]
  apply forall_congr'
  intro header
  simp only [lastValue_of_once lines header _ (once header)]
  constructor
  · intro ⟨value, ⟨line, hline, hnamed, hvalue⟩, haccepts⟩
    exact ⟨line, hline, hnamed, hvalue ▸ haccepts⟩
  · intro ⟨line, hline, hnamed, haccepts⟩
    exact ⟨line.trimmed, ⟨line, hline, hnamed, rfl⟩, haccepts⟩

section Handshake
variable (sha1 : Bytes → Bytes) (base64 : Bytes → String)

theorem ok_bind {α β : Type} (a : α) (next : α → Except WsError β) : (.ok a >>= next) = next a := rfl

/-- A handshake from what its loop reads: the head that came is scanned and judged. -/
theorem performHandshake_run (domain : String) (key : Bytes) (s t : Duplex)
    (result : Except WsError Bytes)
    (read : readHandshakeHeaders.run
      ⟨s.input, s.output ++ utf8 (handshakePayload domain (base64 key))⟩ = (result, t)) :
    (performHandshake sha1 base64 domain (.ok key)).run s =
      (result >>= fun head =>
        parseHandshakeResponse head >>= judge (websocketAccept sha1 base64 (base64 key)), t) := by
  have hrequest : (ofExcept (buildHandshakeRequest sha1 base64 domain (.ok key)) : Io WsError _).run s =
      (.ok ⟨handshakePayload domain (base64 key), websocketAccept sha1 base64 (base64 key)⟩, s) := rfl
  unfold performHandshake
  rw [bind_of_ok hrequest, bind_of_ok (writeAll_run _ _)]
  cases result with
  | error err =>
    rw [bind_of_error read]
    rfl
  | ok head =>
    rw [bind_of_ok read]
    show _ = (parseHandshakeResponse head >>= _, t)
    cases parseHandshakeResponse head with
    | error err => rfl
    | ok response =>
      rw [bind_of_ok (ofExcept_run _ _)]
      show _ = (judge _ response, _)
      unfold judge
      by_cases hstatus : response.status = 101
      · rw [if_pos hstatus, if_pos hstatus]
        cases hvalid : validateHandshakeResponse response (websocketAccept sha1 base64 (base64 key)) with
        | error err =>
          rw [bind_of_error (ofExcept_run _ _)]
          rfl
        | ok passed =>
          rw [bind_of_ok (ofExcept_run _ _), hstatus]
          rfl
      · rw [if_neg hstatus, if_neg hstatus]
        rfl

/-- The run of a handshake on a well-formed head: the request goes out, the head alone is
read, and what was scanned is judged. -/
theorem performHandshake_head (domain statusLine : String) (lines : List HeaderLine)
    (seed rest out : Bytes) (oneLine : OneLine statusLine)
    (fits : (responseHead statusLine lines).length ≤ maxHandshakeHeaderSize) :
    (performHandshake sha1 base64 domain (.ok seed)).run ⟨responseHead statusLine lines ++ rest, out⟩ =
      (parseHandshakeResponse (responseHead statusLine lines) >>=
          judge (websocketAccept sha1 base64 (base64 seed)),
        ⟨rest, out ++ utf8 (handshakePayload domain (base64 seed))⟩) := by
  have hread := readHandshakeHeaders_head statusLine lines rest
    (out ++ utf8 (handshakePayload domain (base64 seed))) oneLine fits
  rw [performHandshake_run sha1 base64 domain seed _ _ _ hread, ok_bind]

/-- A client is connected exactly if the handshake ends with a 101. -/
theorem connect_ok_iff (stream after : Duplex) (domain : String) (random : Except String Bytes) :
    RawWsClient.connect sha1 base64 (.ok stream) domain random = .ok after ↔
      ∃ hs, (performHandshake sha1 base64 domain random).run stream = (.ok hs, after) ∧
        hs.status = 101 := by
  unfold RawWsClient.connect
  simp only [bind, Except.bind, pure, Except.pure]
  rcases (performHandshake sha1 base64 domain random).run stream with ⟨err | hs, stream'⟩
  · simp
  · by_cases hstatus : hs.status = 101 <;> simp [hstatus]

/-- The handshake succeeds with a 101 exactly on a valid upgrade; it then has read the head
and no octet behind it. Another 101 is an error, and no other response connects a client. -/
theorem upgrade_accepted_iff (domain statusLine : String) (lines : List HeaderLine)
    (seed rest out : Bytes) (oneLine : OneLine statusLine) (once : AtMostOnce lines)
    (fits : (responseHead statusLine lines).length ≤ maxHandshakeHeaderSize) :
    ((∃ hs, (performHandshake sha1 base64 domain (.ok seed)).run
          ⟨responseHead statusLine lines ++ rest, out⟩ =
            (.ok hs, ⟨rest, out ++ utf8 (handshakePayload domain (base64 seed))⟩) ∧ hs.status = 101) ↔
        ValidUpgrade (websocketAccept sha1 base64 (base64 seed)) statusLine lines) ∧
      (Announces101 statusLine →
        ¬ ValidUpgrade (websocketAccept sha1 base64 (base64 seed)) statusLine lines →
        ∃ err, ((performHandshake sha1 base64 domain (.ok seed)).run
          ⟨responseHead statusLine lines ++ rest, out⟩).1 = .error err) ∧
      ((∃ after, RawWsClient.connect sha1 base64 (.ok ⟨responseHead statusLine lines ++ rest, out⟩)
          domain (.ok seed) = .ok after) ↔
        ValidUpgrade (websocketAccept sha1 base64 (base64 seed)) statusLine lines) := by
  have hrun := performHandshake_head sha1 base64 domain statusLine lines seed rest out oneLine fits
  have hjudged : (∃ hs, (parseHandshakeResponse (responseHead statusLine lines) >>=
        judge (websocketAccept sha1 base64 (base64 seed))) = .ok hs ∧ hs.status = 101) ↔
      ValidUpgrade (websocketAccept sha1 base64 (base64 seed)) statusLine lines := by
    rw [parseHandshakeResponse_head statusLine lines oneLine]
    unfold ValidUpgrade Announces101
    rw [← announcedStatus_ok_iff]
    cases announcedStatus statusLine with
    | error err => simp [Except.map, bind, Except.bind]
    | ok status =>
      show (∃ hs, judge _ (scanLines lines _) = .ok hs ∧ hs.status = 101) ↔ _
      rw [judge_ok_101_iff, scanLines_status, validate_scanLines_iff _ status lines once, Except.ok.injEq]
  rw [hrun]
  refine ⟨?_, ?_, ?_⟩
  · rw [← hjudged]
    simp only [Prod.mk.injEq, and_true]
  · intro announces invalid
    have hresponse := parseHandshakeResponse_head statusLine lines oneLine
    rw [(announcedStatus_ok_iff statusLine 101).mpr announces] at hresponse
    rw [← hjudged, hresponse] at invalid
    rw [hresponse]
    show ∃ err, judge _ (scanLines lines _) = .error err
    apply (judge_of_101 _ _ (scanLines_status lines _)).resolve_right
    exact invalid
  · rw [← hjudged]
    simp only [connect_ok_iff, hrun, Prod.mk.injEq]
    constructor
    · intro ⟨after, hs, hresult, h101⟩
      exact ⟨hs, hresult.1, h101⟩
    · intro ⟨hs, hresult, h101⟩
      exact ⟨_, hs, ⟨hresult, rfl⟩, h101⟩

end Handshake

/-- The nonce, key and accept value of `websocket_accept_matches_rfc_sample`. -/
def sampleNonce : Bytes := utf8 "the sample nonce"

def sampleKey : String := "dGhlIHNhbXBsZSBub25jZQ=="

def sampleAccept : String := "s3pPLMBiTxaQ9kYGzzhZRbK+xOo="

def sampleSha1 (_ : Bytes) : Bytes :=
  [0xb3, 0x7a, 0x4f, 0x2c, 0xc0, 0x62, 0x4f, 0x16, 0x90, 0xf6,
    0x46, 0x06, 0xcf, 0x38, 0x59, 0x45, 0xb2, 0xbe, 0xc4, 0xea]

def sampleBase64 (octets : Bytes) : String :=
  if octets = sampleNonce then sampleKey else sampleAccept

def upgradeLine : HeaderLine := ⟨"UPGRADE", " WebSocket ", by decide, by decide, by decide⟩

def connectionLine : HeaderLine :=
  ⟨"Connection", " keep-alive, Upgrade", by decide, by decide, by decide⟩

def acceptLine : HeaderLine :=
  ⟨"Sec-WebSocket-Accept", " s3pPLMBiTxaQ9kYGzzhZRbK+xOo=", by decide, by decide, by decide⟩

def protocolLine : HeaderLine :=
  ⟨"sec-websocket-protocol", " binary", by decide, by decide, by decide⟩

def serverLine : HeaderLine := ⟨"Server", " nginx", by decide, by decide, by decide⟩

/-- The lines of a valid upgrade, in no particular order. -/
def sampleLines : List HeaderLine :=
  [serverLine, protocolLine, acceptLine, connectionLine, upgradeLine]

theorem sampleLines_valid : ValidUpgrade (websocketAccept sampleSha1 sampleBase64 (sampleBase64 sampleNonce))
    "HTTP/1.1 101 Switching Protocols" sampleLines := by
  refine ⟨by unfold Announces101; decide, ?_⟩
  intro header
  cases header with
  | upgrade => exact ⟨upgradeLine, by simp [sampleLines], by decide, by decide⟩
  | connection => exact ⟨connectionLine, by simp [sampleLines], by decide, by decide⟩
  | accept => exact ⟨acceptLine, by simp [sampleLines], by decide, by decide +kernel⟩
  | protocol => exact ⟨protocolLine, by simp [sampleLines], by decide, by decide⟩

/-- What the server sends right behind the head. -/
def firstFrame : Bytes := [0x82, 0]

theorem upgrade_accepted_iff_rfc_sample :
    ∃ hs, (performHandshake sampleSha1 sampleBase64 "kws2.web.telegram.org" (.ok sampleNonce)).run
        ⟨responseHead "HTTP/1.1 101 Switching Protocols" sampleLines ++ firstFrame, []⟩ =
      (.ok hs, ⟨firstFrame, [] ++ utf8 (handshakePayload "kws2.web.telegram.org"
        (sampleBase64 sampleNonce))⟩) ∧ hs.status = 101 :=
  (upgrade_accepted_iff sampleSha1 sampleBase64 "kws2.web.telegram.org"
    "HTTP/1.1 101 Switching Protocols" sampleLines sampleNonce firstFrame [] (by decide)
    (fun header => by cases header <;> decide) (by decide +kernel)).1.mpr sampleLines_valid

/-! ## Repeated headers -/

/-- The verdict on a head: its scan passes the checks. -/
def accepted (expectedAccept statusLine : String) (lines : List HeaderLine) : Bool :=
  (parseHandshakeResponse (responseHead statusLine lines) >>= fun response =>
    validateHandshakeResponse response expectedAccept).isOk

/-- Every order of the lines gets the same verdict. -/
def OrderFree (expectedAccept statusLine : String) (lines : List HeaderLine) : Prop :=
  ∀ lines' : List HeaderLine, lines'.Perm lines →
    accepted expectedAccept statusLine lines' = accepted expectedAccept statusLine lines

/-- The line has a value that the header may have. -/
def acceptable (expectedAccept : String) (line : HeaderLine) (header : CheckedHeader) : Bool :=
  header.accepts expectedAccept line.trimmed

/-- A head with a foreign accept or protocol value among its lines is rejected. -/
def RefusesForeign (expectedAccept statusLine : String) (lines : List HeaderLine) : Prop :=
  (∃ line ∈ lines, (isNamed line .accept ∧ ¬ acceptable expectedAccept line .accept) ∨
      (isNamed line .protocol ∧ ¬ acceptable expectedAccept line .protocol)) →
    accepted expectedAccept statusLine lines = false

/-- The line has no value that a checked header of its name may not have. -/
def sound (expectedAccept : String) (line : HeaderLine) : Bool :=
  [CheckedHeader.upgrade, .connection, .accept, .protocol].all fun header =>
    !isNamed line header || acceptable expectedAccept line header

theorem sound_iff (expectedAccept : String) (line : HeaderLine) :
    sound expectedAccept line = true ↔
      ∀ header, isNamed line header = true → acceptable expectedAccept line header = true := by
  unfold sound
  simp only [List.all_cons, List.all_nil, Bool.and_true, Bool.and_eq_true, Bool.or_eq_true,
    Bool.not_eq_true', ← Bool.not_eq_true, ← imp_iff_not_or]
  rw [CheckedHeader.forall_iff]

/-- A line belongs to one checked header at most. -/
theorem isNamed_unique (line : HeaderLine) (header other : CheckedHeader)
    (named : isNamed line header = true) (also : isNamed line other = true) : header = other := by
  unfold isNamed at named also
  rw [named_iff] at named also
  have hlower : header.lowerName = other.lowerName := named.symm.trans also
  cases header <;> cases other <;> first | rfl | exact absurd hlower (by decide)

theorem accepted_iff (expectedAccept statusLine : String) (lines : List HeaderLine)
    (oneLine : OneLine statusLine) :
    accepted expectedAccept statusLine lines = true ↔
      (∃ status, announcedStatus statusLine = .ok status) ∧
        ∀ header : CheckedHeader, ∃ value, lastValue lines header = some value ∧
          header.accepts expectedAccept value = true := by
  unfold accepted
  rw [parseHandshakeResponse_head statusLine lines oneLine]
  cases announcedStatus statusLine with
  | error err => simp [Except.map, bind, Except.bind, Except.isOk, Except.toBool]
  | ok status =>
    rw [← validate_scan_iff expectedAccept status lines]
    show (validateHandshakeResponse (scanLines lines _) expectedAccept).isOk = true ↔ _
    cases validateHandshakeResponse (scanLines lines ⟨status, none, none, none, none, none⟩)
        expectedAccept with
    | error err => simp [Except.isOk, Except.toBool]
    | ok passed => simp [Except.isOk, Except.toBool]

/-- The slot's value stands on a line of the header. -/
theorem lastValue_line (lines : List HeaderLine) (header : CheckedHeader) (value : String)
    (h : lastValue lines header = some value) :
    ∃ line ∈ lines, isNamed line header = true ∧ line.trimmed = value := by
  unfold lastValue at h
  obtain ⟨line, hlast, hvalue⟩ := Option.map_eq_some_iff.mp h
  obtain ⟨hline, hnamed⟩ := List.mem_filter.mp (List.mem_of_getLast? hlast)
  exact ⟨line, hline, hnamed, hvalue⟩

/-- Lines of the header in the back part hide those in the front part. -/
theorem lastValue_append (front back : List HeaderLine) (header : CheckedHeader) (line : HeaderLine)
    (hline : line ∈ back) (named : isNamed line header = true) :
    lastValue (front ++ back) header = lastValue back header ∧
      ∃ value, lastValue back header = some value := by
  have hmem : line ∈ back.filter (isNamed · header) := List.mem_filter.mpr ⟨hline, named⟩
  unfold lastValue
  rw [List.filter_append]
  cases hlast : (back.filter (isNamed · header)).getLast? with
  | none =>
    rw [List.getLast?_eq_none_iff.mp hlast] at hmem
    cases hmem
  | some last =>
    rw [List.getLast?_append, hlast]
    exact ⟨rfl, last.trimmed, rfl⟩

/-- With the sound lines last, a head that has an acceptable line of each header passes. -/
theorem accepted_sound_last (expectedAccept statusLine : String) (lines : List HeaderLine)
    (oneLine : OneLine statusLine) (readable : ∃ status, announcedStatus statusLine = .ok status)
    (present : ∀ header : CheckedHeader, ∃ line ∈ lines,
      isNamed line header = true ∧ acceptable expectedAccept line header = true) :
    accepted expectedAccept statusLine
      (lines.filter (fun line => !sound expectedAccept line) ++ lines.filter (sound expectedAccept)) =
        true := by
  rw [accepted_iff _ _ _ oneLine]
  refine ⟨readable, ?_⟩
  intro header
  obtain ⟨line, hline, hnamed, hgood⟩ := present header
  have hsound : sound expectedAccept line = true := by
    rw [sound_iff]
    intro other hother
    rw [← isNamed_unique line header other hnamed hother]
    exact hgood
  obtain ⟨hhide, value, hvalue⟩ := lastValue_append
    (lines.filter (fun line => !sound expectedAccept line)) _ header line
    (List.mem_filter.mpr ⟨hline, hsound⟩) hnamed
  obtain ⟨source, hsource, hsourceNamed, htrimmed⟩ := lastValue_line _ _ _ hvalue
  have hsourceSound := (sound_iff _ _).mp (List.mem_filter.mp hsource).2 header hsourceNamed
  exact ⟨value, hhide.trans hvalue, htrimmed ▸ hsourceSound⟩

/-- With the unsound lines last, a head that has one fails. -/
theorem refused_unsound_last (expectedAccept statusLine : String) (lines : List HeaderLine)
    (oneLine : OneLine statusLine) (line : HeaderLine) (hline : line ∈ lines)
    (unsound : sound expectedAccept line = false) :
    accepted expectedAccept statusLine
      (lines.filter (sound expectedAccept) ++ lines.filter (fun line => !sound expectedAccept line)) =
        false := by
  rw [← Bool.not_eq_true, accepted_iff _ _ _ oneLine]
  intro h
  have hnot : ¬ ∀ header, isNamed line header = true → acceptable expectedAccept line header = true := by
    rw [← sound_iff, unsound]
    exact Bool.false_ne_true
  obtain ⟨header, hnamed⟩ := not_forall.mp hnot
  rw [Classical.not_imp] at hnamed
  obtain ⟨value, hvalue, haccepts⟩ := h.2 header
  have hmem : line ∈ lines.filter (fun line => !sound expectedAccept line) :=
    List.mem_filter.mpr ⟨hline, by simp [unsound]⟩
  rw [(lastValue_append _ _ header line hmem hnamed.1).1] at hvalue
  obtain ⟨source, hsource, hsourceNamed, rfl⟩ := lastValue_line _ _ _ hvalue
  have hsourceUnsound := (List.mem_filter.mp hsource).2
  rw [Bool.not_eq_true', ← Bool.not_eq_true, sound_iff] at hsourceUnsound
  apply hsourceUnsound
  intro other hother
  rw [← isNamed_unique source header other hsourceNamed hother]
  exact haccepts

/-- A head without unsound lines passes if each checked header occurs. -/
theorem accepted_of_sound_iff (expectedAccept statusLine : String) (lines : List HeaderLine)
    (oneLine : OneLine statusLine)
    (allSound : ∀ line ∈ lines, ∀ header : CheckedHeader,
      isNamed line header = true → acceptable expectedAccept line header = true) :
    accepted expectedAccept statusLine lines = true ↔
      (∃ status, announcedStatus statusLine = .ok status) ∧
        ∀ header : CheckedHeader, ∃ line ∈ lines, isNamed line header = true := by
  rw [accepted_iff _ _ _ oneLine]
  apply and_congr_right
  intro _
  apply forall_congr'
  intro header
  constructor
  · intro ⟨value, hvalue, _⟩
    obtain ⟨line, hline, hnamed, _⟩ := lastValue_line _ _ _ hvalue
    exact ⟨line, hline, hnamed⟩
  · intro ⟨line, hline, hnamed⟩
    obtain ⟨-, value, hvalue⟩ := lastValue_append [] lines header line hline hnamed
    obtain ⟨source, hsource, hsourceNamed, rfl⟩ := lastValue_line _ _ _ hvalue
    exact ⟨source.trimmed, hvalue, allSound source hsource header hsourceNamed⟩

/-- A line that is not sound and a passing order leave no verdict for all orders. -/
theorem not_orderFree_of_unsound (expectedAccept statusLine : String) (lines : List HeaderLine)
    (oneLine : OneLine statusLine) (readable : ∃ status, announcedStatus statusLine = .ok status)
    (present : ∀ header : CheckedHeader, ∃ line ∈ lines,
      isNamed line header = true ∧ acceptable expectedAccept line header = true)
    (line : HeaderLine) (hline : line ∈ lines) (unsound : sound expectedAccept line = false) :
    ¬ OrderFree expectedAccept statusLine lines := by
  intro hfree
  have hpasses := accepted_sound_last expectedAccept statusLine lines oneLine readable present
  have hfails := refused_unsound_last expectedAccept statusLine lines oneLine line hline unsound
  have hperm := List.filter_append_perm (sound expectedAccept) lines
  rw [hfree _ (List.perm_append_comm.trans hperm)] at hpasses
  rw [hfree _ hperm, hpasses] at hfails
  cases hfails

theorem refused_of_unreadable (expectedAccept statusLine : String) (lines : List HeaderLine)
    (oneLine : OneLine statusLine) (err : WsError)
    (unreadable : announcedStatus statusLine = .error err) :
    accepted expectedAccept statusLine lines = false := by
  rw [← Bool.not_eq_true, accepted_iff _ _ _ oneLine, unreadable]
  intro ⟨⟨status, hstatus⟩, _⟩
  cases hstatus

theorem refused_of_absent (expectedAccept statusLine : String) (lines : List HeaderLine)
    (oneLine : OneLine statusLine) (header : CheckedHeader)
    (absent : ∀ line ∈ lines,
      isNamed line header = true → acceptable expectedAccept line header = false) :
    accepted expectedAccept statusLine lines = false := by
  rw [← Bool.not_eq_true, accepted_iff _ _ _ oneLine]
  intro ⟨_, hpasses⟩
  obtain ⟨value, hvalue, haccepts⟩ := hpasses header
  obtain ⟨line, hline, hnamed, rfl⟩ := lastValue_line _ _ _ hvalue
  have hbad := absent line hline hnamed
  rw [acceptable, haccepts] at hbad
  cases hbad

theorem orderFree_of_refused (expectedAccept statusLine : String) (lines : List HeaderLine)
    (refused : ∀ lines' : List HeaderLine, lines'.Perm lines →
      accepted expectedAccept statusLine lines' = false) :
    OrderFree expectedAccept statusLine lines ∧ RefusesForeign expectedAccept statusLine lines := by
  have hself := refused lines (List.Perm.refl lines)
  exact ⟨fun lines' hperm => (refused lines' hperm).trans hself.symm, fun _ => hself⟩

theorem orderFree_of_sound (expectedAccept statusLine : String) (lines : List HeaderLine)
    (oneLine : OneLine statusLine)
    (allSound : ∀ line ∈ lines, ∀ header : CheckedHeader,
      isNamed line header = true → acceptable expectedAccept line header = true) :
    OrderFree expectedAccept statusLine lines ∧ RefusesForeign expectedAccept statusLine lines := by
  constructor
  · intro lines' hperm
    have hsound' : ∀ line ∈ lines', ∀ header : CheckedHeader,
        isNamed line header = true → acceptable expectedAccept line header = true := by
      intro line hline
      exact allSound line (hperm.mem_iff.mp hline)
    rw [Bool.eq_iff_iff, accepted_of_sound_iff _ _ _ oneLine allSound,
      accepted_of_sound_iff _ _ _ oneLine hsound']
    simp only [hperm.mem_iff]
  · intro ⟨line, hline, hforeign⟩
    rcases hforeign with ⟨hnamed, hbad⟩ | ⟨hnamed, hbad⟩
    · exact absurd (allSound line hline .accept hnamed) hbad
    · exact absurd (allSound line hline .protocol hnamed) hbad

/-- The verdict is the same for every order of the lines, and a foreign accept or protocol
value is always rejected, exactly if the status cannot be read, a checked header has no
acceptable line, or no checked header has an unacceptable one. -/
theorem order_free_iff (expectedAccept statusLine : String) (lines : List HeaderLine)
    (oneLine : OneLine statusLine) :
    (OrderFree expectedAccept statusLine lines ∧ RefusesForeign expectedAccept statusLine lines) ↔
      (∃ err, announcedStatus statusLine = .error err) ∨
      (∃ header : CheckedHeader, ∀ line ∈ lines,
        isNamed line header = true → acceptable expectedAccept line header = false) ∨
      ∀ line ∈ lines, ∀ header : CheckedHeader,
        isNamed line header = true → acceptable expectedAccept line header = true := by
  constructor
  · intro ⟨hfree, _⟩
    by_contra hnone
    simp only [not_or, not_exists, not_forall, Bool.not_eq_false, Bool.not_eq_true] at hnone
    obtain ⟨hreadable, hpresent, line, hline, header, hnamed, hbad⟩ := hnone
    have hstatus : ∃ status, announcedStatus statusLine = .ok status := by
      cases hannounced : announcedStatus statusLine with
      | error err => exact absurd hannounced (hreadable err)
      | ok status => exact ⟨status, rfl⟩
    have hunsound : sound expectedAccept line = false := by
      rw [← Bool.not_eq_true, sound_iff]
      intro h
      exact absurd (h header hnamed) (by simp [hbad])
    have hlines : ∀ header : CheckedHeader, ∃ line ∈ lines,
        isNamed line header = true ∧ acceptable expectedAccept line header = true := by
      intro header
      obtain ⟨line, hline, hnamed, hgood⟩ := hpresent header
      exact ⟨line, hline, hnamed, hgood⟩
    exact not_orderFree_of_unsound expectedAccept statusLine lines oneLine hstatus hlines line hline
      hunsound hfree
  · intro hcases
    rcases hcases with ⟨err, herror⟩ | ⟨header, habsent⟩ | hsound
    · apply orderFree_of_refused
      intro lines' _
      exact refused_of_unreadable expectedAccept statusLine lines' oneLine err herror
    · apply orderFree_of_refused
      intro lines' hperm
      apply refused_of_absent expectedAccept statusLine lines' oneLine header
      intro line hline
      exact habsent line (hperm.mem_iff.mp hline)
    · exact orderFree_of_sound expectedAccept statusLine lines oneLine hsound

theorem order_free_iff_single_accept :
    OrderFree sampleAccept "HTTP/1.1 101 Switching Protocols"
        [upgradeLine, connectionLine, acceptLine, protocolLine] ∧
      RefusesForeign sampleAccept "HTTP/1.1 101 Switching Protocols"
        [upgradeLine, connectionLine, acceptLine, protocolLine] := by
  apply (order_free_iff sampleAccept "HTTP/1.1 101 Switching Protocols" _ (by decide)).mpr
  right
  right
  intro line hline header
  simp only [List.mem_cons, List.not_mem_nil, or_false] at hline
  rcases hline with rfl | rfl | rfl | rfl <;> cases header <;> decide

/-- An accept line with another value. -/
def foreignAcceptLine : HeaderLine :=
  ⟨"Sec-WebSocket-Accept", " AAAAAAAAAAAAAAAAAAAAAAAAAAA=", by decide, by decide, by decide⟩

/-- A foreign accept line is overlooked in front of the expected one and not behind it. -/
theorem foreign_accept_overlooked :
    accepted sampleAccept "HTTP/1.1 101 Switching Protocols"
        [foreignAcceptLine, upgradeLine, connectionLine, acceptLine, protocolLine] = true ∧
      accepted sampleAccept "HTTP/1.1 101 Switching Protocols"
        [acceptLine, upgradeLine, connectionLine, foreignAcceptLine, protocolLine] = false ∧
      ¬ ∀ (expectedAccept statusLine : String) (lines : List HeaderLine), OneLine statusLine →
        OrderFree expectedAccept statusLine lines ∧ RefusesForeign expectedAccept statusLine lines := by
  have hfirst : accepted sampleAccept "HTTP/1.1 101 Switching Protocols"
      [foreignAcceptLine, upgradeLine, connectionLine, acceptLine, protocolLine] = true := by
    refine (accepted_iff _ _ _ (by decide)).mpr ⟨⟨101, by decide⟩, ?_⟩
    intro header
    cases header with
    | upgrade => exact ⟨"WebSocket", by decide +kernel, by decide +kernel⟩
    | connection => exact ⟨"keep-alive, Upgrade", by decide +kernel, by decide +kernel⟩
    | accept => exact ⟨sampleAccept, by decide +kernel, by decide +kernel⟩
    | protocol => exact ⟨"binary", by decide +kernel, by decide +kernel⟩
  have hlast : lastValue [acceptLine, upgradeLine, connectionLine, foreignAcceptLine, protocolLine]
      .accept = some "AAAAAAAAAAAAAAAAAAAAAAAAAAA=" := by
    decide +kernel
  have hsecond : accepted sampleAccept "HTTP/1.1 101 Switching Protocols"
      [acceptLine, upgradeLine, connectionLine, foreignAcceptLine, protocolLine] = false := by
    rw [← Bool.not_eq_true, accepted_iff _ _ _ (by decide)]
    intro h
    obtain ⟨value, hvalue, haccepts⟩ := h.2 .accept
    obtain rfl := Option.some.inj (hlast.symm.trans hvalue)
    exact absurd haccepts (by decide +kernel)
  refine ⟨hfirst, hsecond, ?_⟩
  intro h
  have hrefused := (h sampleAccept "HTTP/1.1 101 Switching Protocols"
    [foreignAcceptLine, upgradeLine, connectionLine, acceptLine, protocolLine] (by decide)).2
    ⟨foreignAcceptLine, by simp, .inl ⟨by decide, by decide⟩⟩
  rw [hfirst] at hrefused
  cases hrefused

end TgWsProxy.Guarantees.WsUpgrade
