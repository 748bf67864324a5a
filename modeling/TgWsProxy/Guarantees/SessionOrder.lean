import TgWsProxy.Guarantees.Sessions

/-!
# The order in which a session reads shared state

A session reads the cache, the clock and the back-off table once each, in this order, and
between two reads other sessions write to them. What it comes to is `routeClient` on the
three states that it met there: states of the run, one after another, between the
session's accept and its end (`ended_in_order`). Nothing else of the run has a part in it.
-/

set_option autoImplicit false

namespace TgWsProxy.Guarantees.SessionOrder
open Library Library.Transition Source.Telegram Source.Ws Source.Routing

variable (aes : Aes256)

/-- The run accepts the session and goes on through these states. -/
def Since (i : Nat) (session : Session) (states : List System) (events : List Event) : Prop :=
  ∃ front, Visits (step aes) boot (front ++ [.accept i session]) states events

def Opened (i : Nat) (session : Session) (initPacket : Bytes) (states : List System)
    (events : List Event) : Prop :=
  ∃ first timely, Since aes i first states events ∧ openSession first timely = .ok (session, initPacket)

/-- The session has got as far as its route, on the cache of the first of the states. -/
def Routed (i : Nat) (session : Session) (resolved : ResolvedTelegramInit) (key : WsKey) (r : System)
    (states : List System) (events : List Event) : Prop :=
  ∃ initPacket, Opened aes i session initPacket (r :: states) events ∧
    resolved = resolveTelegramInit aes r.cache session.targetHost initPacket ∧
    selectRoute session resolved = .ok key

/-- What has led a session to its program point, with the states in which it read. -/
def Traced (i : Nat) (events : List Event) : Task → Prop
  | .idle => True
  | .accepted session => Since aes i session [] events
  | .resolving session initPacket => Opened aes i session initPacket [] events
  | .remembering session resolved => ∃ initPacket r, Opened aes i session initPacket [r] events ∧
      resolved = resolveTelegramInit aes r.cache session.targetHost initPacket
  | .sampling session resolved key => ∃ r, Routed aes i session resolved key r [] events
  | .probing session resolved key now =>
    ∃ r a, Routed aes i session resolved key r [a] events ∧ now = a.clock
  | .connecting session resolved key now =>
    ∃ r a b, Routed aes i session resolved key r [a, b] events ∧ now = a.clock ∧
      checkDecision (b.table.beginProbe key now).1 = .ok ()
  | .ended outcome => ∃ session timely r a b connect, Since aes i session [r, a, b] events ∧
      outcome = routeClient aes session timely r.cache b.table a.clock connect

theorem since_more (i : Nat) (session : Session) (states : List System) (events more : List Event)
    (h : Since aes i session states events) : Since aes i session states (events ++ more) := by
  obtain ⟨front, hvisits⟩ := h
  exact ⟨front, visits_more (step aes) boot _ states events more hvisits⟩

theorem since_snoc (i : Nat) (session : Session) (states : List System) (events : List Event) (s : System)
    (reached : runSystem aes boot events = some s) (h : Since aes i session states events) :
    Since aes i session (states ++ [s]) events := by
  obtain ⟨front, hvisits⟩ := h
  exact ⟨front, visits_snoc (step aes) boot _ states events s hvisits reached⟩

theorem opened_more (i : Nat) (session : Session) (initPacket : Bytes) (states : List System)
    (events more : List Event) (h : Opened aes i session initPacket states events) :
    Opened aes i session initPacket states (events ++ more) := by
  obtain ⟨first, timely, hsince, hopen⟩ := h
  exact ⟨first, timely, since_more aes i first states events more hsince, hopen⟩

theorem opened_snoc (i : Nat) (session : Session) (initPacket : Bytes) (states : List System)
    (events : List Event) (s : System) (reached : runSystem aes boot events = some s)
    (h : Opened aes i session initPacket states events) :
    Opened aes i session initPacket (states ++ [s]) events := by
  obtain ⟨first, timely, hsince, hopen⟩ := h
  exact ⟨first, timely, since_snoc aes i first states events s reached hsince, hopen⟩

theorem routed_more (i : Nat) (session : Session) (resolved : ResolvedTelegramInit) (key : WsKey)
    (r : System) (states : List System) (events more : List Event)
    (h : Routed aes i session resolved key r states events) :
    Routed aes i session resolved key r states (events ++ more) := by
  obtain ⟨initPacket, hopened, hroute⟩ := h
  exact ⟨initPacket, opened_more aes i session initPacket _ events more hopened, hroute⟩

theorem routed_snoc (i : Nat) (session : Session) (resolved : ResolvedTelegramInit) (key : WsKey)
    (r : System) (states : List System) (events : List Event) (s : System)
    (reached : runSystem aes boot events = some s)
    (h : Routed aes i session resolved key r states events) :
    Routed aes i session resolved key r (states ++ [s]) events := by
  obtain ⟨initPacket, hopened, hroute⟩ := h
  exact ⟨initPacket, opened_snoc aes i session initPacket _ events s reached hopened, hroute⟩

/-- A session that does not take a step stays where it is. -/
theorem traced_more (i : Nat) (events more : List Event) (task : Task) (h : Traced aes i events task) :
    Traced aes i (events ++ more) task := by
  cases task with
  | idle => trivial
  | accepted session => exact since_more aes i session [] events more h
  | resolving session initPacket => exact opened_more aes i session initPacket [] events more h
  | remembering session resolved =>
    obtain ⟨initPacket, r, hopened, hresolved⟩ := h
    exact ⟨initPacket, r, opened_more aes i session initPacket _ events more hopened, hresolved⟩
  | sampling session resolved key =>
    obtain ⟨r, hrouted⟩ := h
    exact ⟨r, routed_more aes i session resolved key r _ events more hrouted⟩
  | probing session resolved key now =>
    obtain ⟨r, a, hrouted, hnow⟩ := h
    exact ⟨r, a, routed_more aes i session resolved key r _ events more hrouted, hnow⟩
  | connecting session resolved key now =>
    obtain ⟨r, a, b, hrouted, hnow, hcheck⟩ := h
    exact ⟨r, a, b, routed_more aes i session resolved key r _ events more hrouted, hnow, hcheck⟩
  | ended outcome =>
    obtain ⟨session, timely, r, a, b, connect, hsince, houtcome⟩ := h
    exact ⟨session, timely, r, a, b, connect, since_more aes i session _ events more hsince, houtcome⟩

/-! ## An early end -/

section Stages
variable (i : Nat) (events : List Event) (s : System) (reached : runSystem aes boot events = some s)
include reached

/-- A session that ends early reads no further: any later state will do. -/
theorem since_rest (session : Session) (h : Since aes i session [] events) :
    Since aes i session [s, s, s] events :=
  since_snoc aes i session [s, s] events s reached
    (since_snoc aes i session [s] events s reached (since_snoc aes i session [] events s reached h))

theorem openSession_traced (session : Session) (timely : Bool)
    (h : Traced aes i events (.accepted session)) :
    Traced aes i events (settle (openSession session timely) fun (session, initPacket) =>
      .resolving session initPacket) := by
  cases hopen : openSession session timely with
  | error outcome =>
    refine ⟨session, timely, s, s, s, fun _ => none, since_rest aes i events s reached session h, ?_⟩
    rw [routeClient_eq, hopen]
  | ok opened => exact ⟨session, timely, h, hopen⟩

theorem selectRoute_traced (session : Session) (resolved : ResolvedTelegramInit)
    (h : Traced aes i events (.remembering session resolved)) :
    Traced aes i events (settle (selectRoute session resolved) fun key =>
      .sampling session resolved key) := by
  obtain ⟨initPacket, r, hopened, rfl⟩ := h
  cases hselect : selectRoute session
      (resolveTelegramInit aes r.cache session.targetHost initPacket) with
  | error outcome =>
    obtain ⟨first, timely, hsince, hopen⟩ := hopened
    have hread := since_snoc aes i first [r, s] events s reached
      (since_snoc aes i first [r] events s reached hsince)
    refine ⟨first, timely, r, s, s, fun _ => none, hread, ?_⟩
    rw [routeClient_eq, hopen]
    dsimp only
    rw [hselect]
  | ok key => exact ⟨r, initPacket, hopened, rfl, hselect⟩

theorem checkDecision_traced (session : Session) (resolved : ResolvedTelegramInit) (key : WsKey)
    (now : Instant) (h : Traced aes i events (.probing session resolved key now)) :
    Traced aes i events (settle (checkDecision (s.table.beginProbe key now).1) fun _ =>
      .connecting session resolved key now) := by
  obtain ⟨r, a, hrouted, rfl⟩ := h
  have hread := routed_snoc aes i session resolved key r [a] events s reached hrouted
  cases hcheck : checkDecision (s.table.beginProbe key a.clock).1 with
  | error outcome =>
    obtain ⟨initPacket, ⟨first, timely, hsince, hopen⟩, rfl, hselect⟩ := hread
    refine ⟨first, timely, r, a, s, fun _ => none, hsince, ?_⟩
    rw [routeClient_eq, hopen]
    dsimp only
    rw [hselect]
    dsimp only
    rw [hcheck]
  | ok allowed => exact ⟨r, a, s, hread, rfl, hcheck⟩

end Stages

theorem afterAttempt_traced (i : Nat) (events : List Event) (session : Session)
    (resolved : ResolvedTelegramInit) (key : WsKey) (now : Instant) (connect : String → Option WsError)
    (h : Traced aes i events (.connecting session resolved key now)) :
    Traced aes i events (.ended (afterAttempt aes session resolved key
      (connectWsRoute connect key.1 key.2))) := by
  obtain ⟨r, a, b, ⟨initPacket, ⟨first, timely, hsince, hopen⟩, rfl, hselect⟩, rfl, hcheck⟩ := h
  refine ⟨first, timely, r, a, b, connect, hsince, ?_⟩
  rw [routeClient_eq, hopen]
  dsimp only
  rw [hselect]
  dsimp only
  rw [hcheck]

/-! ## Runs -/

theorem traced_step (events : List Event) (s t : System) (event : Event)
    (reached : runSystem aes boot events = some s) (traced : ∀ i, Traced aes i events (s.tasks i))
    (h : step aes s event = some t) (j : Nat) : Traced aes j (events ++ [event]) (t.tasks j) := by
  have hmore := fun i task => traced_more aes i events [event] task
  have hput := put_forall fun i => Traced aes i (events ++ [event])
  have hothers := fun i => hmore i (s.tasks i) (traced i)
  cases resumption_of_step aes s t event h with
  | tick elapsed => exact hothers j
  | accept i session at_point =>
    have haccepted : Traced aes i (events ++ [.accept i session]) (.accepted session) :=
      ⟨events, List.prefix_refl _⟩
    exact hput s i _ haccepted hothers j
  | readInit i timely session at_point =>
    have hpoint : Traced aes i events (.accepted session) := at_point ▸ traced i
    have hnext := openSession_traced aes i events s reached session timely hpoint
    exact hput s i _ (hmore i _ hnext) hothers j
  | resolve i session initPacket at_point =>
    have hpoint : Traced aes i events (.resolving session initPacket) := at_point ▸ traced i
    have hnext : Traced aes i events (.remembering session
        (resolveTelegramInit aes s.cache session.targetHost initPacket)) :=
      ⟨initPacket, s, opened_snoc aes i session initPacket [] events s reached hpoint, rfl⟩
    exact hput s i _ (hmore i _ hnext) hothers j
  | remember i session resolved at_point =>
    have hpoint : Traced aes i events (.remembering session resolved) := at_point ▸ traced i
    have hnext := selectRoute_traced aes i events s reached session resolved hpoint
    exact hput _ i _ (hmore i _ hnext) hothers j
  | sample i session resolved key at_point =>
    have hpoint : Traced aes i events (.sampling session resolved key) := at_point ▸ traced i
    obtain ⟨r, hrouted⟩ := hpoint
    have hnext : Traced aes i events (.probing session resolved key s.clock) :=
      ⟨r, s, routed_snoc aes i session resolved key r [] events s reached hrouted, rfl⟩
    exact hput s i _ (hmore i _ hnext) hothers j
  | probe i session resolved key now at_point =>
    have hpoint : Traced aes i events (.probing session resolved key now) := at_point ▸ traced i
    have hnext := checkDecision_traced aes i events s reached session resolved key now hpoint
    exact hput _ i _ (hmore i _ hnext) hothers j
  | finish i connect session resolved key now at_point =>
    have hpoint : Traced aes i events (.connecting session resolved key now) := at_point ▸ traced i
    have hnext := afterAttempt_traced aes i events session resolved key now connect hpoint
    exact hput _ i _ (hmore i _ hnext) hothers j

theorem run_traced (s : System) (events : List Event) (reached : runSystem aes boot events = some s)
    (i : Nat) : Traced aes i events (s.tasks i) :=
  run_history (step aes) boot (fun events s => ∀ i, Traced aes i events (s.tasks i)) (fun _ => trivial)
    (fun before r event t hreached htraced hstep => traced_step aes before r t event hreached htraced hstep)
    s events reached i

/-- In every interleaving a session that has ended came to what `route_client` makes of it on the
cache, the instant and the table of three states of the run, met in this order after the session
was accepted. -/
theorem ended_in_order (s : System) (events : List Event)
    (reached : runSystem aes boot events = some s) (i : Nat) (outcome : Outcome)
    (ended : s.tasks i = .ended outcome) :
    ∃ session timely r a b connect, Since aes i session [r, a, b] events ∧
      outcome = routeClient aes session timely r.cache b.table a.clock connect := by
  have htraced := run_traced aes s events reached i
  rw [ended] at htraced
  exact htraced

def outcome? (task : Task) : Option Outcome :=
  match task with
  | .ended outcome => some outcome
  | _ => none

theorem ended_of_outcome (task : Task) (outcome : Outcome) (h : outcome? task = some outcome) :
    task = .ended outcome := by
  unfold outcome? at h
  split at h
  · rw [Option.some.inj h]
  · cases h

/-- The first session writes to the cache and begins a probe while the second one is under way. -/
def overlapping : List Event :=
  [.accept 0 ⟨"2001:67c:4e8::1", 443, sampleInit [0xEF, 0xEF, 0xEF, 0xEF]⟩, .readInit 0 true, .resolve 0,
    .accept 1 ⟨"2001:67c:4e8::1", 443, patchInitDc sampleAes (sampleInit [0xEF, 0xEF, 0xEF, 0xEF]) 0⟩,
    .readInit 1 true, .remember 0, .resolve 1, .remember 1, .sample 1, .sample 0, .probe 0, .tick 7,
    .probe 1, .finish 1 fun _ => none]

theorem ended_in_order_overlapping :
    ∃ s outcome, runSystem sampleAes boot overlapping = some s ∧ s.tasks 1 = .ended outcome ∧
      ∃ session timely r a b connect, Since sampleAes 1 session [r, a, b] overlapping ∧
        outcome = routeClient sampleAes session timely r.cache b.table a.clock connect := by
  have hend : ((runSystem sampleAes boot overlapping).bind fun s => outcome? (s.tasks 1)).isSome = true := by
    decide +kernel
  obtain ⟨outcome, hboth⟩ := Option.isSome_iff_exists.mp hend
  obtain ⟨s, hrun, houtcome⟩ := Option.bind_eq_some_iff.mp hboth
  have hended := ended_of_outcome (s.tasks 1) outcome houtcome
  exact ⟨s, outcome, hrun, hended, ended_in_order sampleAes s overlapping hrun 1 outcome hended⟩

end TgWsProxy.Guarantees.SessionOrder
