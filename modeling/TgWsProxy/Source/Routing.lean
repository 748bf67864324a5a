import TgWsProxy.Library.Transition
import TgWsProxy.Source.Relay.Tcp
import TgWsProxy.Source.Routing.Backoff
import TgWsProxy.Source.Routing.Ipv6Cache
import TgWsProxy.Source.Socks
import TgWsProxy.Source.Std.Utf8
import TgWsProxy.Source.Telegram.Splitter
import TgWsProxy.Source.Ws.Frame

/-!
# Routing

`modules/routing.rs`, from the SOCKS command to the end of a session. The stages
between two accesses to shared state are pure functions: an early `return` is an
error that carries the session's outcome. `routeClient` is one session from
beginning to end, with what it finds in the shared tables as arguments.

`step` runs any number of sessions at once over one clock, one cache and one
back-off table. Its program points are where `route_client` reaches shared state,
reads the clock or waits, and an event is one session resuming there.
-/

set_option autoImplicit false

namespace TgWsProxy.Source.Routing
open Library Source.Std Source.Telegram Source.Ws

structure ResolvedTelegramInit where
  packet : Bytes
  info : TelegramInitInfo
  patched : Bool
  deriving DecidableEq, Repr

inductive UnknownDcAction where
  | close | directPassthrough
  deriving DecidableEq, Repr

/-- The domain whose handshake succeeded, and whether every failure was a 404. -/
structure WsConnectAttempt where
  client : Option String
  all404 : Bool
  deriving DecidableEq, Repr

variable (aes : Aes256)

def isHttpTransport (buf : Bytes) : Bool :=
  (utf8 "POST ").isPrefixOf buf || (utf8 "GET ").isPrefixOf buf ||
    (utf8 "HEAD ").isPrefixOf buf || (utf8 "OPTIONS ").isPrefixOf buf

theorem isPrefixOf_take (method packet : Bytes) (short : method.length ≤ 8) :
    method.isPrefixOf packet = method.isPrefixOf (packet.take 8) := by
  rw [Bool.eq_iff_iff, List.isPrefixOf_iff_prefix, List.isPrefixOf_iff_prefix, List.prefix_take_iff]
  exact ⟨fun h => ⟨h, short⟩, fun h => h.1⟩

/-- No method is longer than eight octets. -/
theorem isHttpTransport_take (packet : Bytes) :
    isHttpTransport packet = isHttpTransport (packet.take 8) := by
  unfold isHttpTransport
  rw [isPrefixOf_take (utf8 "POST ") packet (by decide),
    isPrefixOf_take (utf8 "GET ") packet (by decide),
    isPrefixOf_take (utf8 "HEAD ") packet (by decide),
    isPrefixOf_take (utf8 "OPTIONS ") packet (by decide)]

theorem isHttpTransport_patchInitDc (packet : Bytes) (dc : Int16) (h : 64 ≤ packet.length) :
    isHttpTransport (patchInitDc aes packet dc) = isHttpTransport packet := by
  have hhead : (patchInitDc aes packet dc).take 8 = packet.take 8 := by
    apply List.ext_getElem?
    intro i
    by_cases hi : i < 8
    · rw [List.getElem?_take_of_lt hi, List.getElem?_take_of_lt hi,
        patchInitDc_getElem? aes packet dc h, if_neg (by omega), if_neg (by omega)]
    · rw [List.getElem?_take_eq_none (by omega), List.getElem?_take_eq_none (by omega)]
  rw [isHttpTransport_take, hhead, ← isHttpTransport_take]

def routeDecision (host : String) (port : UInt16) (hasDc : Bool) : String :=
  if !isTelegramIp host then "tcp_passthrough"
  else if hasDc && port != 0 then "ws_only"
  else "unknown_dc"

/-- The field that an entry is patched in as. -/
def signedDc (entry : TelegramIpEntry) : Int16 :=
  if entry.isMedia then -(Int16.ofNat entry.dc.toNat) else Int16.ofNat entry.dc.toNat

/-- The five data centres survive the narrowing, and the sign carries the media flag. -/
theorem narrowDc_signedDc (entry : TelegramIpEntry) (low : 1 ≤ entry.dc) (high : entry.dc ≤ 5) :
    narrowDc (signedDc entry) = entry.dc ∧ decide (signedDc entry < 0) = entry.isMedia := by
  obtain ⟨dc, isMedia⟩ := entry
  have hdc : dc ∈ [1, 2, 3, 4, 5] := by
    simp [UInt8.le_iff_toNat_le, ← UInt8.toNat_inj] at low high ⊢
    omega
  revert hdc
  simp only [List.mem_cons, List.not_mem_nil, or_false]
  rintro (rfl | rfl | rfl | rfl | rfl) <;> cases isMedia <;> decide

def resolveTelegramInit (cache : Ipv6Cache) (targetHost : String) (initPacket : Bytes) :
    ResolvedTelegramInit :=
  let info := extractDc aes initPacket
  if info.dc.isNone then
    match (cache.learnedIpv6Entry targetHost).or (ipToDc targetHost) with
    | some entry =>
      let packet := patchInitDc aes initPacket (signedDc entry)
      let info := extractDc aes packet
      ⟨packet, { info with dc := some entry.dc, isMedia := entry.isMedia }, true⟩
    | none => ⟨initPacket, info, false⟩
  else ⟨initPacket, info, false⟩

/-- The three ways a packet is resolved: by its own field, by the entry of its host, or not. -/
theorem resolve_spec (cache : Ipv6Cache) (host : String) (packet : Bytes) :
    (∃ dc, (extractDc aes packet).dc = some dc ∧
        resolveTelegramInit aes cache host packet = ⟨packet, extractDc aes packet, false⟩) ∨
      (∃ entry, (extractDc aes packet).dc = none ∧
        (cache.learnedIpv6Entry host).or (ipToDc host) = some entry ∧
        resolveTelegramInit aes cache host packet =
          ⟨patchInitDc aes packet (signedDc entry), ⟨some entry.dc, entry.isMedia⟩, true⟩) ∨
      ((extractDc aes packet).dc = none ∧
        (cache.learnedIpv6Entry host).or (ipToDc host) = none ∧
        resolveTelegramInit aes cache host packet = ⟨packet, extractDc aes packet, false⟩) := by
  unfold resolveTelegramInit
  dsimp only
  cases hown : (extractDc aes packet).dc with
  | some dc => exact .inl ⟨dc, rfl, rfl⟩
  | none =>
    rw [Option.isNone_none, if_pos rfl]
    cases hentry : (cache.learnedIpv6Entry host).or (ipToDc host) with
    | some entry => exact .inr (.inl ⟨entry, rfl, rfl, rfl⟩)
    | none => exact .inr (.inr ⟨rfl, rfl, rfl⟩)

def rememberTelegramIpv6 (cache : Ipv6Cache) (targetHost : String) (targetIsIpv6 : Bool)
    (info : TelegramInitInfo) : Ipv6Cache :=
  if targetIsIpv6 then
    match info.dc with
    | some dc => cache.rememberIpv6Entry targetHost ⟨dc, info.isMedia⟩
    | none => cache
  else cache

/-- An entry that is there after recording was there before, or is the recorded one. -/
theorem entry_of_remember (cache : Ipv6Cache) (host : String) (v6 : Bool) (info : TelegramInitInfo)
    (ip : Ipv6Addr) (entry : TelegramIpEntry)
    (h : (rememberTelegramIpv6 cache host v6 info).entries ip = some entry) :
    cache.entries ip = some entry ∨
      Ipv6Addr.fromStr host = some ip ∧ info.dc = some entry.dc ∧ info.isMedia = entry.isMedia := by
  unfold rememberTelegramIpv6 at h
  split at h
  · split at h
    · rename_i dc hdc
      unfold Ipv6Cache.rememberIpv6Entry at h
      split at h
      · exact .inl h
      · rename_i own hown
        dsimp only at h
        by_cases hip : ip = own
        · rw [hip, Function.update_self] at h
          obtain rfl := Option.some.inj h
          exact .inr ⟨by rw [hip, hown], hdc, rfl⟩
        · rw [Function.update_of_ne hip] at h
          exact .inl h
    · exact .inl h
  · exact .inl h

def unknownDcAction (targetIsIpv6 : Bool) : UnknownDcAction :=
  if targetIsIpv6 then .directPassthrough else .close

def statusCode (err : WsError) : Option UInt16 :=
  match err with
  | .httpStatus status _ => some status
  | _ => none

/-- The loop over the domains; `connect` gives the error of a domain that fails. -/
def connectDomains (connect : String → Option WsError) : List String → Bool → WsConnectAttempt
  | [], all404 => ⟨none, all404⟩
  | domain :: domains, all404 =>
    match connect domain with
    | none => ⟨some domain, all404⟩
    | some err =>
      connectDomains connect domains (if statusCode err ≠ some 404 then false else all404)

def connectWsRoute (connect : String → Option WsError) (dc : UInt8) (isMedia : Bool) :
    WsConnectAttempt :=
  connectDomains connect (wsDomains dc isMedia) true

/-! ## One session -/

inductive CloseReason where
  | initIo | initTimeout | httpTransport | unknownDc | cooldown | disabled404 | wsUnavailable
  deriving DecidableEq, Repr

/-- What a session comes to: a plain TCP connection with octets to send ahead, a
bridge that opens with an init packet, or neither. -/
inductive Outcome where
  | tcp (host : String) (port : UInt16) (prelude : Bytes) (client : Bytes)
  | bridge (key : WsKey) (domain : String) (init : Bytes)
      (splitter : Option MtProtoMessageSplitter) (client : Bytes)
  | closed (why : CloseReason)
  deriving DecidableEq, Repr

/-- The target and what the client has still to send. -/
structure Session where
  targetHost : String
  targetPort : UInt16
  client : Bytes
  deriving DecidableEq, Repr

/-- Up to the init packet; `timely` says that the read does not time out. -/
def openSession (session : Session) (timely : Bool) : Except Outcome (Session × Bytes) :=
  if !isTelegramIp session.targetHost then
    .error (.tcp session.targetHost session.targetPort [] session.client)
  else if !timely then .error (.closed .initTimeout)
  else if session.client.length < 64 then .error (.closed .initIo)
  else .ok ({ session with client := session.client.drop 64 }, session.client.take 64)

def handleUnknownDc (session : Session) (initPacket : Bytes) : Outcome :=
  match unknownDcAction (Socks.isIpv6 session.targetHost) with
  | .directPassthrough => .tcp session.targetHost session.targetPort initPacket session.client
  | .close => .closed .unknownDc

/-- From the resolved packet to the route's key. -/
def selectRoute (session : Session) (resolved : ResolvedTelegramInit) : Except Outcome WsKey :=
  if isHttpTransport resolved.packet then .error (.closed .httpTransport)
  else
    match resolved.info.dc with
    | none => .error (handleUnknownDc session resolved.packet)
    | some dc => .ok (dc, resolved.info.isMedia)

def checkDecision (decision : WsDecision) : Except Outcome Unit :=
  match decision with
  | .probeNow | .probeInFlight => .ok ()
  | .cooldown => .error (.closed .cooldown)
  | .disabled404 => .error (.closed .disabled404)

def afterAttempt (session : Session) (resolved : ResolvedTelegramInit) (key : WsKey)
    (attempt : WsConnectAttempt) : Outcome :=
  match attempt.client with
  | some domain =>
    .bridge key domain resolved.packet (MtProtoMessageSplitter.new aes resolved.packet) session.client
  | none => .closed .wsUnavailable

/-- The closing call that an attempt makes on the table. -/
def closeAttempt (table : WsBackoff) (key : WsKey) (now : Instant) (attempt : WsConnectAttempt) :
    WsBackoff :=
  match attempt.client with
  | some _ => table.clear key
  | none => if attempt.all404 then table.disable404 key else table.recordFailure key now

/-- `route_client` after the handshake, on the cache, the table and the clock that
it finds and with the outcome of each connection it tries. -/
def routeClient (session : Session) (timely : Bool) (cache : Ipv6Cache) (table : WsBackoff)
    (now : Instant) (connect : String → Option WsError) : Outcome :=
  let run : Except Outcome Outcome := do
    let (session, initPacket) ← openSession session timely
    let resolved := resolveTelegramInit aes cache session.targetHost initPacket
    let key ← selectRoute session resolved
    checkDecision (table.beginProbe key now).1
    return afterAttempt aes session resolved key (connectWsRoute connect key.1 key.2)
  match run with
  | .ok outcome | .error outcome => outcome

/-- The stages of a session, each of which may end it. -/
theorem routeClient_eq (session : Session) (timely : Bool) (cache : Ipv6Cache) (table : WsBackoff)
    (now : Instant) (connect : String → Option WsError) :
    routeClient aes session timely cache table now connect =
      match openSession session timely with
      | .error outcome => outcome
      | .ok (rest, initPacket) =>
        match selectRoute rest (resolveTelegramInit aes cache rest.targetHost initPacket) with
        | .error outcome => outcome
        | .ok key =>
          match checkDecision (table.beginProbe key now).1 with
          | .error outcome => outcome
          | .ok () => afterAttempt aes rest
              (resolveTelegramInit aes cache rest.targetHost initPacket) key
              (connectWsRoute connect key.1 key.2) := by
  unfold routeClient
  simp only [bind, Except.bind]
  cases openSession session timely with
  | error outcome => rfl
  | ok opened =>
    dsimp only
    cases selectRoute opened.1 (resolveTelegramInit aes cache opened.1.targetHost opened.2) with
    | error outcome => rfl
    | ok key =>
      dsimp only
      cases checkDecision (table.beginProbe key now).1 with
      | error outcome => rfl
      | ok allowed => rfl

/-- The plain connection that an outcome asks for, on a client to which the
handshake has written `replies`. -/
def Outcome.connectTcp (net : Relay.Network) (replies : Bytes) (outcome : Outcome) :
    Option Relay.TcpBridge :=
  match outcome with
  | .tcp host port prelude client =>
    some (Relay.bridgeTcpTcpWithPrelude net ⟨client, replies⟩ host port prelude)
  | .bridge _ _ _ _ _ | .closed _ => none

/-! ## Many sessions -/

inductive Task where
  | idle
  | accepted (session : Session)
  | resolving (session : Session) (initPacket : Bytes)
  | remembering (session : Session) (resolved : ResolvedTelegramInit)
  | sampling (session : Session) (resolved : ResolvedTelegramInit) (key : WsKey)
  | probing (session : Session) (resolved : ResolvedTelegramInit) (key : WsKey) (now : Instant)
  | connecting (session : Session) (resolved : ResolvedTelegramInit) (key : WsKey) (now : Instant)
  | ended (outcome : Outcome)
  deriving DecidableEq, Repr

structure System where
  clock : Instant
  cache : Ipv6Cache
  table : WsBackoff
  tasks : Nat → Task

inductive Event where
  | accept (i : Nat) (session : Session)
  | readInit (i : Nat) (timely : Bool)
  | resolve (i : Nat)
  | remember (i : Nat)
  | sample (i : Nat)
  | probe (i : Nat)
  | finish (i : Nat) (connect : String → Option WsError)
  | tick (elapsed : Nat)

def boot : System := ⟨0, .empty, .empty, fun _ => .idle⟩

def System.put (s : System) (i : Nat) (task : Task) : System :=
  { s with tasks := Function.update s.tasks i task }

/-- What holds of every session and of the one that is put holds of every session after. -/
theorem put_forall (P : Nat → Task → Prop) (s : System) (i : Nat) (task : Task) (put : P i task)
    (all : ∀ j, P j (s.tasks j)) (j : Nat) : P j ((s.put i task).tasks j) := by
  unfold System.put
  dsimp only
  by_cases hj : j = i
  · rw [hj, Function.update_self]
    exact put
  · rw [Function.update_of_ne hj]
    exact all j

/-- The next program point, or the end that an early return makes. -/
def settle {α : Type} (stage : Except Outcome α) (next : α → Task) : Task :=
  match stage with
  | .ok a => next a
  | .error outcome => .ended outcome

/-! What holds of a session after a stage: it has ended without a bridge, or gone on. -/

section
variable (P : Task → Prop) (closed : ∀ why, P (.ended (.closed why)))
include closed

theorem settle_openSession (session : Session) (timely : Bool)
    (tcp : ∀ host port prelude client, P (.ended (.tcp host port prelude client)))
    (next : isTelegramIp session.targetHost = true → 64 ≤ session.client.length →
      P (.resolving { session with client := session.client.drop 64 } (session.client.take 64))) :
    P (settle (openSession session timely) fun (session, initPacket) =>
      .resolving session initPacket) := by
  unfold openSession
  cases htelegram : isTelegramIp session.targetHost with
  | false => exact tcp _ _ _ _
  | true =>
    rw [Bool.not_true, if_neg Bool.false_ne_true]
    split
    · exact closed _
    · split
      · exact closed _
      · rename_i hfull
        exact next htelegram (Nat.not_lt.mp hfull)

theorem settle_selectRoute (session : Session) (resolved : ResolvedTelegramInit)
    (tcp : ∀ host port prelude client, P (.ended (.tcp host port prelude client)))
    (next : ∀ dc, resolved.info.dc = some dc →
      P (.sampling session resolved (dc, resolved.info.isMedia))) :
    P (settle (selectRoute session resolved) fun key => .sampling session resolved key) := by
  unfold selectRoute
  split
  · exact closed _
  · split
    · unfold handleUnknownDc
      split
      · exact tcp _ _ _ _
      · exact closed _
    · rename_i dc hdc
      exact next dc hdc

theorem settle_checkDecision (session : Session) (resolved : ResolvedTelegramInit) (key : WsKey)
    (now : Instant) (decision : WsDecision) (next : P (.connecting session resolved key now)) :
    P (settle (checkDecision decision) fun _ => .connecting session resolved key now) := by
  cases decision with
  | probeNow | probeInFlight => exact next
  | cooldown | disabled404 => exact closed _

/-- A bridge that an attempt opens is on one of the domains of its route. -/
theorem ended_afterAttempt (session : Session) (resolved : ResolvedTelegramInit) (key : WsKey)
    (attempt : WsConnectAttempt)
    (next : ∀ domain, attempt.client = some domain →
      P (.ended (.bridge key domain resolved.packet (MtProtoMessageSplitter.new aes resolved.packet)
        session.client))) :
    P (.ended (afterAttempt aes session resolved key attempt)) := by
  unfold afterAttempt
  split
  · rename_i domain hclient
    exact next domain hclient
  · exact closed _

end

def step (s : System) (event : Event) : Option System :=
  match event with
  | .accept i session =>
    match s.tasks i with
    | .idle => some (s.put i (.accepted session))
    | _ => none
  | .readInit i timely =>
    match s.tasks i with
    | .accepted session =>
      some (s.put i (settle (openSession session timely) fun (session, initPacket) =>
        .resolving session initPacket))
    | _ => none
  | .resolve i =>
    match s.tasks i with
    | .resolving session initPacket =>
      some (s.put i
        (.remembering session (resolveTelegramInit aes s.cache session.targetHost initPacket)))
    | _ => none
  | .remember i =>
    match s.tasks i with
    | .remembering session resolved =>
      let cache := rememberTelegramIpv6 s.cache session.targetHost (Socks.isIpv6 session.targetHost)
        resolved.info
      some ({ s with cache := cache }.put i
        (settle (selectRoute session resolved) fun key => .sampling session resolved key))
    | _ => none
  | .sample i =>
    match s.tasks i with
    | .sampling session resolved key => some (s.put i (.probing session resolved key s.clock))
    | _ => none
  | .probe i =>
    match s.tasks i with
    | .probing session resolved key now =>
      let (decision, table) := s.table.beginProbe key now
      some ({ s with table := table }.put i
        (settle (checkDecision decision) fun _ => .connecting session resolved key now))
    | _ => none
  | .finish i connect =>
    match s.tasks i with
    | .connecting session resolved key now =>
      let attempt := connectWsRoute connect key.1 key.2
      some ({ s with table := closeAttempt s.table key now attempt }.put i
        (.ended (afterAttempt aes session resolved key attempt)))
    | _ => none
  | .tick elapsed => some { s with clock := s.clock + elapsed }

abbrev runSystem (s : System) (events : List Event) : Option System :=
  Transition.run (step aes) s events

/-- Every step: where its session stands and what becomes of it. -/
inductive Resumption (s : System) : Event → System → Prop
  | accept (i : Nat) (session : Session) (at_point : s.tasks i = .idle) :
      Resumption s (.accept i session) (s.put i (.accepted session))
  | readInit (i : Nat) (timely : Bool) (session : Session) (at_point : s.tasks i = .accepted session) :
      Resumption s (.readInit i timely)
        (s.put i (settle (openSession session timely) fun (session, initPacket) =>
          .resolving session initPacket))
  | resolve (i : Nat) (session : Session) (initPacket : Bytes)
      (at_point : s.tasks i = .resolving session initPacket) :
      Resumption s (.resolve i) (s.put i
        (.remembering session (resolveTelegramInit aes s.cache session.targetHost initPacket)))
  | remember (i : Nat) (session : Session) (resolved : ResolvedTelegramInit)
      (at_point : s.tasks i = .remembering session resolved) :
      Resumption s (.remember i)
        ({ s with
          cache := rememberTelegramIpv6 s.cache session.targetHost (Socks.isIpv6 session.targetHost)
            resolved.info }.put i
          (settle (selectRoute session resolved) fun key => .sampling session resolved key))
  | sample (i : Nat) (session : Session) (resolved : ResolvedTelegramInit) (key : WsKey)
      (at_point : s.tasks i = .sampling session resolved key) :
      Resumption s (.sample i) (s.put i (.probing session resolved key s.clock))
  | probe (i : Nat) (session : Session) (resolved : ResolvedTelegramInit) (key : WsKey)
      (now : Instant) (at_point : s.tasks i = .probing session resolved key now) :
      Resumption s (.probe i)
        ({ s with table := (s.table.beginProbe key now).2 }.put i
          (settle (checkDecision (s.table.beginProbe key now).1) fun _ =>
            .connecting session resolved key now))
  | finish (i : Nat) (connect : String → Option WsError) (session : Session)
      (resolved : ResolvedTelegramInit) (key : WsKey) (now : Instant)
      (at_point : s.tasks i = .connecting session resolved key now) :
      Resumption s (.finish i connect)
        ({ s with table := closeAttempt s.table key now (connectWsRoute connect key.1 key.2) }.put i
          (.ended (afterAttempt aes session resolved key (connectWsRoute connect key.1 key.2))))
  | tick (elapsed : Nat) : Resumption s (.tick elapsed) { s with clock := s.clock + elapsed }

theorem resumption_of_step (s t : System) (event : Event) (h : step aes s event = some t) :
    Resumption aes s event t := by
  unfold step at h
  cases event with
  | tick elapsed =>
    obtain rfl := Option.some.inj h
    exact .tick elapsed
  | accept i session | readInit i timely | resolve i | remember i | sample i | probe i
  | finish i connect =>
    dsimp only at h
    split at h
    · rename_i at_point
      obtain rfl := Option.some.inj h
      constructor
      exact at_point
    · cases h

/-! ## Accesses to the table -/

/-- The route on which a session is about to begin a probe, and its instant. -/
def Task.probe? (task : Task) : Option (WsKey × Instant) :=
  match task with
  | .probing _ _ key now => some (key, now)
  | _ => none

/-- The route on which a session has an attempt open, and its start. -/
def Task.attempt? (task : Task) : Option (WsKey × Instant) :=
  match task with
  | .connecting _ _ key now => some (key, now)
  | _ => none

/-- The `begin_ws_probe` that an event makes. -/
def begins (s : System) (event : Event) : Option (WsKey × Instant) :=
  match event with
  | .probe i => (s.tasks i).probe?
  | _ => none

/-- The attempt that an event closes, with the start that the closing call gets. -/
def closes (s : System) (event : Event) : Option (WsKey × Instant × WsConnectAttempt) :=
  match event with
  | .finish i connect =>
    (s.tasks i).attempt?.map fun (key, now) => (key, now, connectWsRoute connect key.1 key.2)
  | _ => none

/-- What an event does to the table. -/
def tableAfter (s : System) (event : Event) : WsBackoff :=
  match begins s event, closes s event with
  | some (key, now), _ => (s.table.beginProbe key now).2
  | none, some (key, now, attempt) => closeAttempt s.table key now attempt
  | none, none => s.table

/-- Only beginning a probe and closing an attempt write to the table. -/
theorem step_table (s t : System) (event : Event) (h : step aes s event = some t) :
    t.table = tableAfter s event := by
  cases resumption_of_step aes s t event h with
  | tick elapsed => rfl
  | accept i session at_point | readInit i timely session at_point
  | resolve i session initPacket at_point | remember i session resolved at_point
  | sample i session resolved key at_point | probe i session resolved key now at_point
  | finish i connect session resolved key now at_point =>
    simp only [tableAfter, begins, closes, at_point, Task.probe?, Task.attempt?, Option.map_some]
    rfl

/-- An event does not both begin a probe and close an attempt. -/
theorem begins_none_of_closes (s : System) (event : Event)
    (closing : WsKey × Instant × WsConnectAttempt) (h : closes s event = some closing) :
    begins s event = none := by
  cases event with
  | probe i => cases h
  | accept i session | readInit i timely | resolve i | remember i | sample i | finish i connect
  | tick elapsed => rfl

/-- A session with an attempt open can always close it. -/
theorem step_isSome_of_closes (s : System) (event : Event)
    (closing : WsKey × Instant × WsConnectAttempt) (h : closes s event = some closing) :
    ∃ t, step aes s event = some t := by
  cases event with
  | finish i connect =>
    obtain ⟨opened, hattempt, -⟩ := Option.map_eq_some_iff.mp h
    unfold Task.attempt? at hattempt
    split at hattempt
    · rename_i hpoint
      simp [step, hpoint]
    · cases hattempt
  | accept i session | readInit i timely | resolve i | remember i | sample i | probe i
  | tick elapsed => cases h

end TgWsProxy.Source.Routing
