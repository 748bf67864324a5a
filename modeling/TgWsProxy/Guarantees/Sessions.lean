import TgWsProxy.Source.Routing

/-!
# Each session of a run is a run of `route_client`

Sessions meet only at the clock, the cache and the back-off table. Whatever the
others do there, a session that has ended came to what `routeClient` gives for
the target it was accepted with, on some content of the cache and of the table and
at some instant (`ended_eq_routeClient`).
-/

set_option autoImplicit false

namespace TgWsProxy.Guarantees.Sessions
open Library Library.Transition Source.Telegram Source.Ws Source.Routing

variable (aes : Aes256) (accepted : Session → Prop)

/-- The init packet has been read from an accepted session. -/
def Opened (session : Session) (initPacket : Bytes) : Prop :=
  ∃ first timely, accepted first ∧ openSession first timely = .ok (session, initPacket)

/-- The init packet has been resolved on some content of the cache. -/
def Resolved (session : Session) (resolved : ResolvedTelegramInit) : Prop :=
  ∃ initPacket cache, Opened accepted session initPacket ∧
    resolved = resolveTelegramInit aes cache session.targetHost initPacket

/-- What has led a session to its program point. -/
def Explained : Task → Prop
  | .idle => True
  | .accepted session => accepted session
  | .resolving session initPacket => Opened accepted session initPacket
  | .remembering session resolved => Resolved aes accepted session resolved
  | .sampling session resolved key | .probing session resolved key _ =>
    Resolved aes accepted session resolved ∧ selectRoute session resolved = .ok key
  | .connecting session resolved key now =>
    Resolved aes accepted session resolved ∧ selectRoute session resolved = .ok key ∧
      ∃ table : WsBackoff, checkDecision (table.beginProbe key now).1 = .ok ()
  | .ended outcome =>
    ∃ session timely cache table now connect, accepted session ∧
      outcome = routeClient aes session timely cache table now connect

theorem openSession_explained (session : Session) (timely : Bool)
    (h : Explained aes accepted (.accepted session)) :
    Explained aes accepted (settle (openSession session timely) fun (session, initPacket) =>
      .resolving session initPacket) := by
  cases hopen : openSession session timely with
  | error outcome =>
    refine ⟨session, timely, .empty, .empty, 0, fun _ => none, h, ?_⟩
    rw [routeClient_eq, hopen]
  | ok opened => exact ⟨session, timely, h, hopen⟩

theorem selectRoute_explained (session : Session) (resolved : ResolvedTelegramInit)
    (h : Explained aes accepted (.remembering session resolved)) :
    Explained aes accepted (settle (selectRoute session resolved) fun key =>
      .sampling session resolved key) := by
  cases hselect : selectRoute session resolved with
  | error outcome =>
    obtain ⟨initPacket, cache, ⟨first, timely, haccepted, hopen⟩, rfl⟩ := h
    refine ⟨first, timely, cache, .empty, 0, fun _ => none, haccepted, ?_⟩
    rw [routeClient_eq, hopen]
    dsimp only
    rw [hselect]
  | ok key => exact ⟨h, hselect⟩

theorem checkDecision_explained (session : Session) (resolved : ResolvedTelegramInit) (key : WsKey)
    (now : Instant) (table : WsBackoff)
    (h : Explained aes accepted (.probing session resolved key now)) :
    Explained aes accepted (settle (checkDecision (table.beginProbe key now).1) fun _ =>
      .connecting session resolved key now) := by
  obtain ⟨hresolved, hselect⟩ := h
  cases hcheck : checkDecision (table.beginProbe key now).1 with
  | error outcome =>
    obtain ⟨initPacket, cache, ⟨first, timely, haccepted, hopen⟩, rfl⟩ := hresolved
    refine ⟨first, timely, cache, table, now, fun _ => none, haccepted, ?_⟩
    rw [routeClient_eq, hopen]
    dsimp only
    rw [hselect]
    dsimp only
    rw [hcheck]
  | ok allowed => exact ⟨hresolved, hselect, table, hcheck⟩

theorem afterAttempt_explained (session : Session) (resolved : ResolvedTelegramInit) (key : WsKey)
    (now : Instant) (connect : String → Option WsError)
    (h : Explained aes accepted (.connecting session resolved key now)) :
    Explained aes accepted (.ended (afterAttempt aes session resolved key
      (connectWsRoute connect key.1 key.2))) := by
  obtain ⟨⟨initPacket, cache, ⟨first, timely, haccepted, hopen⟩, rfl⟩, hselect, table, hcheck⟩ := h
  refine ⟨first, timely, cache, table, now, connect, haccepted, ?_⟩
  rw [routeClient_eq, hopen]
  dsimp only
  rw [hselect]
  dsimp only
  rw [hcheck]

/-- A session that is being accepted is one of those that `accepted` allows. -/
def Accepts (accepted : Nat → Session → Prop) (_ : System) (event : Event) : Prop :=
  ∀ i session, event = .accept i session → accepted i session

theorem explained_step (accepted : Nat → Session → Prop) (s t : System) (event : Event)
    (explained : ∀ i, Explained aes (accepted i) (s.tasks i)) (accepts : Accepts accepted s event)
    (h : step aes s event = some t) (j : Nat) : Explained aes (accepted j) (t.tasks j) := by
  have hput := put_forall fun i => Explained aes (accepted i)
  cases resumption_of_step aes s t event h with
  | tick elapsed => exact explained j
  | accept i session at_point => exact hput s i (.accepted session) (accepts i session rfl) explained j
  | readInit i timely session at_point =>
    have hpoint : Explained aes (accepted i) (.accepted session) := at_point ▸ explained i
    exact hput s i _ (openSession_explained aes (accepted i) session timely hpoint) explained j
  | resolve i session initPacket at_point =>
    have hpoint : Explained aes (accepted i) (.resolving session initPacket) := at_point ▸ explained i
    have hnext : Explained aes (accepted i) (.remembering session
        (resolveTelegramInit aes s.cache session.targetHost initPacket)) :=
      ⟨initPacket, s.cache, hpoint, rfl⟩
    exact hput s i _ hnext explained j
  | remember i session resolved at_point =>
    have hpoint : Explained aes (accepted i) (.remembering session resolved) := at_point ▸ explained i
    exact hput _ i _ (selectRoute_explained aes (accepted i) session resolved hpoint) explained j
  | sample i session resolved key at_point =>
    have hpoint : Explained aes (accepted i) (.sampling session resolved key) := at_point ▸ explained i
    exact hput s i (.probing session resolved key s.clock) hpoint explained j
  | probe i session resolved key now at_point =>
    have hpoint : Explained aes (accepted i) (.probing session resolved key now) :=
      at_point ▸ explained i
    exact hput _ i _ (checkDecision_explained aes (accepted i) session resolved key now s.table hpoint)
      explained j
  | finish i connect session resolved key now at_point =>
    have hpoint : Explained aes (accepted i) (.connecting session resolved key now) :=
      at_point ▸ explained i
    exact hput _ i _ (afterAttempt_explained aes (accepted i) session resolved key now connect hpoint)
      explained j

/-- Whatever the order of the steps, a session that has ended was accepted in the run,
and came to what `route_client` makes of it alone. -/
theorem ended_eq_routeClient (s : System) (events : List Event)
    (reached : runSystem aes boot events = some s) (i : Nat) (outcome : Outcome)
    (ended : s.tasks i = .ended outcome) :
    ∃ session timely cache table now connect, .accept i session ∈ events ∧
      outcome = routeClient aes session timely cache table now connect := by
  have hboot : ∀ j, Explained aes (fun session => .accept j session ∈ events) (boot.tasks j) :=
    fun _ => trivial
  have haccepts : Along (step aes) (Accepts fun i session => .accept i session ∈ events) boot events := by
    apply along_of_forall (step aes)
      (fun event => ∀ i session, event = .accept i session → .accept i session ∈ events)
    intro event hmem i session heq
    exact heq ▸ hmem
  have hend := run_invariant (step aes)
    (fun s => ∀ j, Explained aes (fun session => .accept j session ∈ events) (s.tasks j))
    (Accepts fun i session => .accept i session ∈ events)
    (fun s event t hs haccepts hstep =>
      explained_step aes (fun i session => .accept i session ∈ events) s t event hs haccepts hstep)
    boot s events hboot haccepts reached i
  rw [ended] at hend
  exact hend

end TgWsProxy.Guarantees.Sessions
