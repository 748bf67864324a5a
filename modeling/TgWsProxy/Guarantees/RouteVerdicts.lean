import TgWsProxy.Guarantees.HandshakeHead
import TgWsProxy.Guarantees.WsBackoff
import TgWsProxy.Guarantees.WsUpgrade
import TgWsProxy.Source.Ws.Client

/-!
# What disables a route

From the octets that the servers send to the table that every session shares. A
connection fails with an HTTP status exactly if the stream that was opened begins with a
readable head of that status, and not of 101 (`connectThrough_status_iff`); a route counts
as gone exactly if that happens with 404 on each of its domains; and a session is refused
for it exactly if the latest attempt on the route that has closed found it gone.
-/

set_option autoImplicit false

namespace TgWsProxy.Guarantees.RouteVerdicts
open Library Library.Io Library.Transition Source.Std Source.Telegram Source.Ws Source.Routing
open HandshakeHead WsBackoff WsUpgrade

/-! ## Readable heads -/

/-- A line that ends the scan of a head. -/
def blank (line : Bytes) : Bool := line = [13] || line = []

/-- The status line gives the status, and every line up to the blank one has a colon. -/
structure Readable (head : Bytes) (status : UInt16) : Prop where
  announced : parseStatus ((head.splitOn 10).headD []) = .ok status
  colons : ∀ line ∈ (head.splitOn 10).tail.takeWhile fun line => !blank line,
    ':' ∈ headerText line

theorem setHeader_status (response : WsHandshakeResponse) (name : List Char) (value : String) :
    (response.setHeader name value).status = response.status := by
  unfold WsHandshakeResponse.setHeader
  simp only [apply_ite WsHandshakeResponse.status, ite_self]

/-- The scan fails on a line without a colon and keeps the status. -/
theorem parseHeaderLines_ok_iff (lines : List Bytes) (response : WsHandshakeResponse)
    (status : UInt16) :
    (∃ scanned, parseHeaderLines lines response = .ok scanned ∧ scanned.status = status) ↔
      response.status = status ∧
        ∀ line ∈ lines.takeWhile fun line => !blank line, ':' ∈ headerText line := by
  induction lines generalizing response with
  | nil => simp [parseHeaderLines]
  | cons line lines ih =>
    rw [parseHeaderLines]
    by_cases hblank : line = [13] ∨ line = []
    · have hstop : blank line = true := by
        rcases hblank with rfl | rfl <;> decide
      rw [if_pos hblank, List.takeWhile_cons, hstop]
      simp
    · rw [if_neg hblank, List.takeWhile_cons_of_pos (by simpa [blank] using hblank)]
      cases hcolon : splitOnce ':' (headerText line) with
      | none =>
        have habsent := (splitOnce_eq_none_iff ':' (headerText line)).mp hcolon
        simp [habsent]
      | some parts =>
        have hpresent : ':' ∈ headerText line := by
          by_contra habsent
          rw [(splitOnce_eq_none_iff ':' (headerText line)).mpr habsent] at hcolon
          cases hcolon
        dsimp only
        rw [ih, setHeader_status, List.forall_mem_cons, and_iff_right hpresent]

theorem parseHandshakeResponse_eq (head : Bytes) :
    parseHandshakeResponse head = (parseStatus ((head.splitOn 10).headD [])).bind fun status =>
      parseHeaderLines (head.splitOn 10).tail ⟨status, none, none, none, none, none⟩ := rfl

theorem parseHandshakeResponse_ok_iff (head : Bytes) (status : UInt16) :
    (∃ response, parseHandshakeResponse head = .ok response ∧ response.status = status) ↔
      Readable head status := by
  rw [parseHandshakeResponse_eq]
  cases hstatus : parseStatus ((head.splitOn 10).headD []) with
  | error err =>
    constructor
    · rintro ⟨response, hresponse, -⟩
      cases hresponse
    · intro hreadable
      rw [hreadable.announced] at hstatus
      cases hstatus
  | ok found =>
    show (∃ response, parseHeaderLines _ _ = .ok response ∧ _) ↔ _
    rw [parseHeaderLines_ok_iff]
    constructor
    · rintro ⟨rfl, hcolons⟩
      exact ⟨hstatus, hcolons⟩
    · intro hreadable
      exact ⟨Except.ok.inj (hstatus.symm.trans hreadable.announced), hreadable.colons⟩

/-- A head of whole lines is readable if its status line is. -/
theorem readable_responseHead_iff (statusLine : String) (lines : List HeaderLine) (status : UInt16)
    (oneLine : OneLine statusLine) :
    Readable (responseHead statusLine lines) status ↔ announcedStatus statusLine = .ok status := by
  rw [← parseHandshakeResponse_ok_iff, parseHandshakeResponse_head statusLine lines oneLine]
  cases announcedStatus statusLine with
  | error err => simp [Except.map]
  | ok found => simp [Except.map, scanLines_status]

/-! ## The program's own failures -/

theorem parseStatus_error (line : Bytes) (err : WsError) (h : parseStatus line = .error err) :
    statusCode err = none := by
  unfold parseStatus at h
  split at h
  · obtain rfl := Except.error.inj h
    rfl
  · split at h
    · obtain rfl := Except.error.inj h
      rfl
    · cases h

theorem parseHeaderLines_error (lines : List Bytes) (response : WsHandshakeResponse) (err : WsError)
    (h : parseHeaderLines lines response = .error err) : statusCode err = none := by
  induction lines generalizing response with
  | nil => cases h
  | cons line lines ih =>
    rw [parseHeaderLines] at h
    split at h
    · cases h
    · split at h
      · obtain rfl := Except.error.inj h
        rfl
      · exact ih _ h

theorem parseHandshakeResponse_error (head : Bytes) (err : WsError)
    (h : parseHandshakeResponse head = .error err) : statusCode err = none := by
  rw [parseHandshakeResponse_eq] at h
  cases hstatus : parseStatus ((head.splitOn 10).headD []) with
  | error err' =>
    rw [hstatus] at h
    obtain rfl := Except.error.inj h
    exact parseStatus_error _ _ hstatus
  | ok status =>
    rw [hstatus] at h
    exact parseHeaderLines_error _ _ _ h

theorem checkHeader_error (slot : Option String) (passes : String → Bool)
    (unexpected missing : String) (err : WsError)
    (h : checkHeader slot passes unexpected missing = .error err) : statusCode err = none := by
  unfold checkHeader at h
  split at h
  · split at h
    · cases h
    · obtain rfl := Except.error.inj h
      rfl
  · obtain rfl := Except.error.inj h
    rfl

theorem readHandshakeHeaders_error (s t : Duplex) (err : WsError)
    (h : readHandshakeHeaders.run s = (.error err, t)) : statusCode err = none := by
  rcases stream_cases s.input with ⟨head, hfirst, hfits⟩ | ⟨hlong, hnone⟩ | ⟨hshort, hnone⟩
  · obtain ⟨rest, hrest⟩ := hfirst.here
    rw [(readHandshakeHeaders_ok_iff s.input s.output head ⟨rest, s.output⟩).mpr
      ⟨hfirst, hfits, hrest.symm, rfl⟩] at h
    cases (Prod.mk.inj h).1
  · rw [readHandshakeHeaders_oversized s.input s.output hlong hnone] at h
    obtain rfl := Except.error.inj (Prod.mk.inj h).1
    rfl
  · rw [readHandshakeHeaders_closed s.input s.output hshort hnone] at h
    obtain rfl := Except.error.inj (Prod.mk.inj h).1
    rfl

theorem check_then_error (check next : Except WsError Unit) (err : WsError)
    (h : (check >>= fun _ => next) = .error err) : check = .error err ∨ next = .error err := by
  cases check with
  | error reason => exact .inl h
  | ok passed => exact .inr h

theorem judge_error (expectedAccept : String) (response : WsHandshakeResponse) (err : WsError)
    (h : judge expectedAccept response = .error err) : statusCode err = none := by
  unfold judge at h
  split at h
  · have hvalid : validateHandshakeResponse response expectedAccept = .error err := by
      cases hvalid : validateHandshakeResponse response expectedAccept with
      | error reason =>
        rw [hvalid] at h
        exact congrArg Except.error (Except.error.inj h)
      | ok passed =>
        rw [hvalid] at h
        cases h
    unfold validateHandshakeResponse at hvalid
    rcases check_then_error _ _ err hvalid with h | h
    · exact checkHeader_error _ _ _ _ err h
    rcases check_then_error _ _ err h with h | h
    · exact checkHeader_error _ _ _ _ err h
    rcases check_then_error _ _ err h with h | h
    · exact checkHeader_error _ _ _ _ err h
    exact checkHeader_error _ _ _ _ err h
  · cases h

/-- The status of a handshake is the one that its head announces. -/
theorem judged_ok_status (expectedAccept : String) (parsed : Except WsError WsHandshakeResponse)
    (hs : WsHandshake) (h : (parsed >>= judge expectedAccept) = .ok hs) :
    ∃ response, parsed = .ok response ∧ response.status = hs.status := by
  cases parsed with
  | error err => cases h
  | ok response =>
    refine ⟨response, rfl, ?_⟩
    rw [ok_bind] at h
    unfold judge at h
    split at h
    · rename_i h101
      cases hvalid : validateHandshakeResponse response expectedAccept with
      | error err =>
        rw [hvalid] at h
        cases h
      | ok passed =>
        rw [hvalid] at h
        rw [← Except.ok.inj h, h101]
    · rw [← Except.ok.inj h]

/-! ## Connections -/

section Connect
variable (sha1 : Bytes → Bytes) (base64 : Bytes → String)

/-- The domain's stream was opened, the request could be made, and what came back begins
with a readable head of this status that ends in time. -/
def AnswersWith (answer : Answer) (status : UInt16) : Prop :=
  ∃ stream key head, connectRaw answer.dial = .ok stream ∧ answer.random = .ok key ∧
    FirstBlankLine stream.input head ∧ head.length ≤ 8192 ∧ Readable head status

/-- A stream of whole header lines answers with the status that its first line announces. -/
theorem answersWith_head_iff (answer : Answer) (stream : Duplex) (key : Bytes) (statusLine : String)
    (lines : List HeaderLine) (rest : Bytes) (status : UInt16)
    (opened : connectRaw answer.dial = .ok stream) (drawn : answer.random = .ok key)
    (arrived : stream.input = responseHead statusLine lines ++ rest) (oneLine : OneLine statusLine)
    (fits : (responseHead statusLine lines).length ≤ 8192) :
    AnswersWith answer status ↔ announcedStatus statusLine = .ok status := by
  rw [← readable_responseHead_iff statusLine lines status oneLine]
  have hread := readHandshakeHeaders_head statusLine lines rest [] oneLine fits
  constructor
  · rintro ⟨stream', key', head, hopened, -, hfirst, hfits, hreadable⟩
    obtain rfl := Except.ok.inj (opened.symm.trans hopened)
    obtain ⟨after, hafter⟩ := hfirst.here
    have hfound := readHandshakeHeaders_found head after [] hfits (hafter ▸ hfirst)
    rw [hafter, arrived, hread] at hfound
    rw [Except.ok.inj (Prod.mk.inj hfound).1]
    exact hreadable
  · intro hreadable
    have hfirst := ((readHandshakeHeaders_ok_iff _ [] _ _).mp hread).1
    exact ⟨stream, key, _, opened, drawn, arrived ▸ hfirst, fits, hreadable⟩

/-- A handshake ends with a status of its own, not 101, on a readable head of that status. -/
theorem performHandshake_status_iff (domain : String) (random : Except String Bytes)
    (stream : Duplex) (status : UInt16) (other : status ≠ 101) :
    (∃ hs after, (performHandshake sha1 base64 domain random).run stream = (.ok hs, after) ∧
        hs.status = status) ↔
      ∃ key head, random = .ok key ∧ FirstBlankLine stream.input head ∧ head.length ≤ 8192 ∧
        Readable head status := by
  constructor
  · rintro ⟨hs, after, hrun, rfl⟩
    cases random with
    | error reason => cases (Prod.mk.inj hrun).1
    | ok key =>
      cases hread : readHandshakeHeaders.run
          ⟨stream.input, stream.output ++ utf8 (handshakePayload domain (base64 key))⟩ with
      | mk result t =>
        rw [performHandshake_run sha1 base64 domain key stream t result hread] at hrun
        cases result with
        | error reason => cases (Prod.mk.inj hrun).1
        | ok head =>
          obtain ⟨hfirst, hfits, -, -⟩ := (readHandshakeHeaders_ok_iff _ _ head t).mp hread
          refine ⟨key, head, rfl, hfirst, hfits, (parseHandshakeResponse_ok_iff head _).mp ?_⟩
          exact judged_ok_status _ _ hs (Prod.mk.inj hrun).1
  · rintro ⟨key, head, rfl, hfirst, hfits, hreadable⟩
    obtain ⟨response, hparse, hstatus⟩ := (parseHandshakeResponse_ok_iff head status).mpr hreadable
    obtain ⟨rest, hrest⟩ := hfirst.here
    have hread := (readHandshakeHeaders_ok_iff stream.input
      (stream.output ++ utf8 (handshakePayload domain (base64 key))) head
        ⟨rest, stream.output ++ utf8 (handshakePayload domain (base64 key))⟩).mpr
          ⟨hfirst, hfits, hrest.symm, rfl⟩
    rw [performHandshake_run sha1 base64 domain key stream _ _ hread, ok_bind, hparse, ok_bind,
      judge, if_neg (hstatus ▸ other)]
    exact ⟨_, _, rfl, hstatus⟩

/-- A handshake on an open stream fails without a status. -/
theorem performHandshake_error (domain : String) (random : Except String Bytes)
    (stream after : Duplex) (err : WsError)
    (h : (performHandshake sha1 base64 domain random).run stream = (.error err, after)) :
    statusCode err = none := by
  cases random with
  | error reason =>
    obtain rfl := Except.error.inj (Prod.mk.inj h).1
    rfl
  | ok key =>
    cases hread : readHandshakeHeaders.run
        ⟨stream.input, stream.output ++ utf8 (handshakePayload domain (base64 key))⟩ with
    | mk result t =>
      rw [performHandshake_run sha1 base64 domain key stream t result hread] at h
      cases result with
      | error reason =>
        obtain rfl := Except.error.inj (Prod.mk.inj h).1
        exact readHandshakeHeaders_error _ t _ hread
      | ok head =>
        have hjudged := (Prod.mk.inj h).1
        rw [ok_bind] at hjudged
        cases hparse : parseHandshakeResponse head with
        | error reason =>
          rw [hparse] at hjudged
          obtain rfl := Except.error.inj hjudged
          exact parseHandshakeResponse_error head _ hparse
        | ok response =>
          rw [hparse, ok_bind] at hjudged
          exact judge_error _ response err hjudged

/-- A connection on an open stream fails with a status of its own exactly if the handshake
ends with it. -/
theorem connect_status_iff (stream : Duplex) (domain : String) (random : Except String Bytes)
    (status : UInt16) :
    (∃ err, RawWsClient.connect sha1 base64 (.ok stream) domain random = .error err ∧
        statusCode err = some status) ↔
      status ≠ 101 ∧
        ∃ hs after, (performHandshake sha1 base64 domain random).run stream = (.ok hs, after) ∧
          hs.status = status := by
  unfold RawWsClient.connect
  simp only [bind, Except.bind, pure, Except.pure]
  cases hrun : (performHandshake sha1 base64 domain random).run stream with
  | mk result after =>
    cases result with
    | error err =>
      have hnone := performHandshake_error sha1 base64 domain random stream after err hrun
      simp [hnone]
    | ok hs =>
      by_cases h101 : hs.status = 101
      · simp [h101, eq_comm]
      · have hfails : (∃ err, (Except.error (.httpStatus hs.status hs.location) : Except WsError Duplex) =
            .error err ∧ statusCode err = some status) ↔ hs.status = status := by
          simp [statusCode]
        dsimp only
        rw [if_pos h101, hfails]
        constructor
        · rintro rfl
          exact ⟨h101, hs, after, rfl, rfl⟩
        · rintro ⟨-, hs', after', hsame, hstatus⟩
          rw [Except.ok.inj (Prod.mk.inj hsame).1, hstatus]

/-- `connect_raw` fails without a status. -/
theorem connectRaw_status (dial : Dial) (err : WsError) (h : connectRaw dial = .error err) :
    statusCode err = none := by
  unfold connectRaw at h
  split at h
  · obtain rfl := Except.error.inj h
    rfl
  · obtain rfl := Except.error.inj h
    rfl
  · split at h
    · obtain rfl := Except.error.inj h
      rfl
    · split at h
      · obtain rfl := Except.error.inj h
        rfl
      · obtain rfl := Except.error.inj h
        rfl
      · cases h

/-- The loop over the domains hears a status exactly if the domain's server announces it. -/
theorem connectThrough_status_iff (answers : String → Answer) (domain : String)
    (status : UInt16) :
    (connectThrough sha1 base64 answers domain).bind statusCode = some status ↔
      status ≠ 101 ∧ AnswersWith (answers domain) status := by
  have hfails : (connectThrough sha1 base64 answers domain).bind statusCode = some status ↔
      ∃ err, RawWsClient.connect sha1 base64 (connectRaw (answers domain).dial) domain
        (answers domain).random = .error err ∧ statusCode err = some status := by
    unfold connectThrough
    cases RawWsClient.connect sha1 base64 (connectRaw (answers domain).dial) domain
      (answers domain).random <;> simp
  rw [hfails]
  unfold AnswersWith
  cases hraw : connectRaw (answers domain).dial with
  | error err =>
    have hnone := connectRaw_status (answers domain).dial err hraw
    constructor
    · rintro ⟨err', herr, hstatus⟩
      obtain rfl := Except.error.inj herr
      rw [hnone] at hstatus
      cases hstatus
    · rintro ⟨-, stream, key, head, hstream, -⟩
      cases hstream
  | ok stream =>
    rw [connect_status_iff]
    apply and_congr_right
    intro other
    rw [performHandshake_status_iff sha1 base64 domain _ stream status other]
    constructor
    · rintro ⟨key, head, hanswer⟩
      exact ⟨stream, key, head, rfl, hanswer⟩
    · rintro ⟨stream', key, head, hstream, hanswer⟩
      obtain rfl := Except.ok.inj hstream
      exact ⟨key, head, hanswer⟩

end Connect

/-! ## Routes -/

/-- All domains are tried and each fails with a 404, or the loop ends otherwise. -/
theorem connectDomains_404_iff (connect : String → Option WsError) (domains : List String)
    (all404 : Bool) :
    found404 (connectDomains connect domains all404) ↔
      all404 = true ∧ ∀ domain ∈ domains, (connect domain).bind statusCode = some 404 := by
  induction domains generalizing all404 with
  | nil => simp [connectDomains, found404]
  | cons domain domains ih =>
    rw [connectDomains, List.forall_mem_cons]
    cases hconnect : connect domain with
    | none => simp [found404]
    | some err =>
      dsimp only
      rw [ih, Option.bind_some]
      by_cases h404 : statusCode err = some 404
      · simp [h404]
      · simp [h404]

variable (aes : Aes256)

/-- The attempts on the route that a run closes, in their order. -/
def closedOn (key : WsKey) (s : System) (event : Event) (_ : System) : List WsConnectAttempt :=
  match closes s event with
  | none => []
  | some (other, _, attempt) => if other = key then [attempt] else []

theorem closedOn_eq_nil_iff (key : WsKey) (s t : System) (event : Event) :
    closedOn key s event t = [] ↔ Quiet key s event := by
  unfold closedOn Quiet
  cases hcloses : closes s event with
  | none => simp
  | some closing =>
    obtain ⟨other, now, attempt⟩ := closing
    dsimp only
    by_cases hkey : other = key
    · simp [hkey]
    · simp [hkey]

theorem getLast?_closedOn_iff (key : WsKey) (s t : System) (event : Event)
    (attempt : WsConnectAttempt) :
    (closedOn key s event t).getLast? = some attempt ↔
      ∃ i connect now, event = .finish i connect ∧ (s.tasks i).attempt? = some (key, now) ∧
        attempt = connectWsRoute connect key.1 key.2 := by
  unfold closedOn closes
  constructor
  · intro hlast
    split at hlast
    · cases hlast
    · rename_i other now found hcloses
      split at hlast
      · rename_i hkey
        subst hkey
        obtain rfl := Option.some.inj hlast
        split at hcloses
        · rename_i i connect
          obtain ⟨opened, hopened, hsame⟩ := Option.map_eq_some_iff.mp hcloses
          simp only [Prod.mk.injEq] at hsame
          obtain ⟨rfl, rfl, rfl⟩ := hsame
          exact ⟨i, connect, _, rfl, hopened, rfl⟩
        · cases hcloses
      · cases hlast
  · rintro ⟨i, connect, now, rfl, hopened, rfl⟩
    simp [hopened]

/-- The purge and the insertion of a probe touch no verdict. -/
theorem beginProbe_disabled_iff (table : WsBackoff) (key other : WsKey) (now : Instant) :
    (table.beginProbe other now).2.states key = some .disabled404 ↔
      table.states key = some .disabled404 := by
  have hretain : (table.retain now).states key = some .disabled404 ↔
      table.states key = some .disabled404 := by
    rw [table.retain_states, Option.filter_eq_some_iff]
    simp [WsBackoff.survives]
  rw [table.beginProbe_states]
  split
  · rename_i hfresh
    obtain ⟨rfl, hnone⟩ := hfresh
    rw [hnone] at hretain
    simpa using hretain
  · exact hretain

/-- The last attempt that was closed on the route decides whether it is disabled. -/
def Decided (key : WsKey) (s : System) (closed : List WsConnectAttempt) : Prop :=
  s.table.states key = some .disabled404 ↔ ∃ attempt, closed.getLast? = some attempt ∧ found404 attempt

theorem decided_step (key : WsKey) (s t : System) (closed : List WsConnectAttempt) (event : Event)
    (decided : Decided key s closed) (h : step aes s event = some t) :
    Decided key t (closed ++ closedOn key s event t) := by
  unfold Decided at decided ⊢
  rw [step_table aes s t event h, tableAfter]
  cases hcloses : closes s event with
  | none =>
    have hsilent : closedOn key s event t = [] := by simp [closedOn, hcloses]
    rw [hsilent, List.append_nil, ← decided]
    cases begins s event with
    | none => rfl
    | some probe => exact beginProbe_disabled_iff s.table key probe.1 probe.2
  | some closing =>
    obtain ⟨other, now, attempt⟩ := closing
    rw [begins_none_of_closes s event _ hcloses]
    dsimp only
    by_cases hkey : other = key
    · subst hkey
      have hclosed : closedOn other s event t = [attempt] := by simp [closedOn, hcloses]
      rw [closeAttempt_disabled_iff, hclosed, List.getLast?_concat]
      simp
    · have hsilent : closedOn key s event t = [] := by simp [closedOn, hcloses, hkey]
      rw [closeAttempt_of_ne _ _ _ _ _ (Ne.symm hkey), hsilent, List.append_nil]
      exact decided

theorem run_decided (key : WsKey) (events : List Event) (t : System)
    (ends : runSystem aes boot events = some t) :
    Decided key t (outputs (step aes) (closedOn key) boot events) := by
  have hstart : Decided key boot [] := by
    simp [Decided, boot, WsBackoff.empty]
  exact run_outputs (step aes) (closedOn key) (Decided key) (fun _ _ => True)
    (fun s closed event t hdecided _ hstep => decided_step aes key s t closed event hdecided hstep)
    boot t [] events hstart (along_of_forall _ (fun _ => True) _ _ fun _ _ => trivial) ends

/-- Every attempt goes through connections to the domains' servers. -/
def OverNetwork (sha1 : Bytes → Bytes) (base64 : Bytes → String) (events : List Event) : Prop :=
  ∀ i connect, Event.finish i connect ∈ events →
    ∃ answers, connect = connectThrough sha1 base64 answers

/-- The latest attempt on the route that the run has closed: that of a session that had one
open there, with nothing closed on the route since. -/
def LatestAttempt (key : WsKey) (events : List Event) (connect : String → Option WsError) : Prop :=
  ∃ before i after s next now, events = before ++ .finish i connect :: after ∧
    runSystem aes boot before = some s ∧ (s.tasks i).attempt? = some (key, now) ∧
    step aes s (.finish i connect) = some next ∧ Along (step aes) (Quiet key) next after

theorem latestAttempt_iff (key : WsKey) (events : List Event) (t : System)
    (attempt : WsConnectAttempt) (ends : runSystem aes boot events = some t) :
    (outputs (step aes) (closedOn key) boot events).getLast? = some attempt ↔
      ∃ connect, LatestAttempt aes key events connect ∧ attempt = connectWsRoute connect key.1 key.2 := by
  have hquiet : ∀ s event t, step aes s event = some t →
      (closedOn key s event t = [] ↔ Quiet key s event) :=
    fun s event t _ => closedOn_eq_nil_iff key s t event
  rw [getLast?_outputs_iff (step aes) (closedOn key) boot t events attempt ends]
  constructor
  · rintro ⟨before, event, after, s, next, rfl, hbefore, hstep, hlast, hsilent⟩
    obtain ⟨i, connect, now, rfl, hopened, hattempt⟩ :=
      (getLast?_closedOn_iff key s next event attempt).mp hlast
    have hrest := run_rest (step aes) boot s next t before after _ ends hbefore hstep
    have hsince := (outputs_eq_nil_iff _ _ (Quiet key) hquiet next t after hrest).mp hsilent
    exact ⟨connect, ⟨before, i, after, s, next, now, rfl, hbefore, hopened, hstep, hsince⟩, hattempt⟩
  · rintro ⟨connect, ⟨before, i, after, s, next, now, rfl, hbefore, hopened, hstep, hsince⟩, hattempt⟩
    have hlast := (getLast?_closedOn_iff key s next (.finish i connect) attempt).mpr
      ⟨i, connect, now, rfl, hopened, hattempt⟩
    have hrest := run_rest (step aes) boot s next t before after _ ends hbefore hstep
    have hsilent := (outputs_eq_nil_iff _ _ (Quiet key) hquiet next t after hrest).mpr hsince
    exact ⟨before, .finish i connect, after, s, next, rfl, hbefore, hstep, hlast, hsilent⟩

/-- In every run a session is refused for a 404 exactly if in the latest attempt on its
route every domain's stream began with a readable head of status 404. -/
theorem refused_404_iff (sha1 : Bytes → Bytes) (base64 : Bytes → String) (events : List Event)
    (t : System) (key : WsKey) (now : Instant) (network : OverNetwork sha1 base64 events)
    (ends : runSystem aes boot events = some t) :
    (t.table.beginProbe key now).1 = .disabled404 ↔
      ∃ answers, LatestAttempt aes key events (connectThrough sha1 base64 answers) ∧
        ∀ domain ∈ wsDomains key.1 key.2, AnswersWith (answers domain) 404 := by
  have hroute : ∀ answers, found404 (connectWsRoute (connectThrough sha1 base64 answers) key.1 key.2) ↔
      ∀ domain ∈ wsDomains key.1 key.2, AnswersWith (answers domain) 404 := by
    intro answers
    rw [connectWsRoute, connectDomains_404_iff, and_iff_right rfl]
    apply forall₂_congr
    intro domain _
    rw [connectThrough_status_iff, and_iff_right (by decide)]
  have hdecided : t.table.states key = some .disabled404 ↔ _ := run_decided aes key events t ends
  rw [decision_disabled_iff, hdecided]
  simp only [latestAttempt_iff aes key events t _ ends]
  constructor
  · rintro ⟨attempt, ⟨connect, hlatest, rfl⟩, hfound⟩
    obtain ⟨before, i, after, s, next, now', hsplit, -⟩ := id hlatest
    obtain ⟨answers, rfl⟩ := network i connect (by simp [hsplit])
    exact ⟨answers, hlatest, (hroute answers).mp hfound⟩
  · rintro ⟨answers, hlatest, hanswers⟩
    exact ⟨_, ⟨_, hlatest, rfl⟩, (hroute answers).mpr hanswers⟩

/-- A server that has no such page. -/
def goneAnswers : String → Answer := fun _ =>
  ⟨⟨some (.ok ()), .ok (), some (.ok ⟨responseHead "HTTP/1.1 404 Not Found" [serverLine], []⟩)⟩,
    .ok sampleNonce⟩

theorem goneAnswers_with (domain : String) : AnswersWith (goneAnswers domain) 404 := by
  have hstatus : announcedStatus "HTTP/1.1 404 Not Found" = .ok 404 := by decide +kernel
  exact (answersWith_head_iff (goneAnswers domain) _ sampleNonce _ [serverLine] [] 404 rfl rfl
    (List.append_nil _).symm (by decide) (by decide +kernel)).mpr hstatus

/-- One session, whose attempt finds no page on either domain. -/
def goneRun : List Event :=
  opening 0 ++ [.finish 0 (connectThrough sampleSha1 sampleBase64 goneAnswers)]

theorem goneRun_latest :
    LatestAttempt sampleAes (2, false) goneRun (connectThrough sampleSha1 sampleBase64 goneAnswers) := by
  have hends : ((runSystem sampleAes boot (opening 0)).bind fun s =>
      (step sampleAes s (.finish 0 (connectThrough sampleSha1 sampleBase64 goneAnswers))).bind fun _ =>
        (s.tasks 0).attempt?) = some ((2, false), 0) := by decide +kernel
  obtain ⟨s, hbefore, hends⟩ := Option.bind_eq_some_iff.mp hends
  obtain ⟨next, hstep, hattempt⟩ := Option.bind_eq_some_iff.mp hends
  exact ⟨opening 0, 0, [], s, next, 0, rfl, hbefore, hattempt, hstep, trivial⟩

theorem refused_404_iff_gone :
    ∃ t, runSystem sampleAes boot goneRun = some t ∧
      (t.table.beginProbe (2, false) 0).1 = .disabled404 := by
  have hruns : (runSystem sampleAes boot goneRun).isSome := by decide +kernel
  obtain ⟨t, ht⟩ := Option.isSome_iff_exists.mp hruns
  have hnetwork : OverNetwork sampleSha1 sampleBase64 goneRun := by
    intro i connect hmem
    simp only [goneRun, opening, approaching, List.cons_append, List.nil_append,
      List.mem_cons, List.not_mem_nil, or_false, reduceCtorEq, false_or, Event.finish.injEq] at hmem
    exact ⟨goneAnswers, hmem.2⟩
  exact ⟨t, ht, (refused_404_iff sampleAes sampleSha1 sampleBase64 goneRun t (2, false) 0 hnetwork
    ht).mpr ⟨goneAnswers, goneRun_latest, fun domain _ => goneAnswers_with domain⟩⟩

end TgWsProxy.Guarantees.RouteVerdicts
