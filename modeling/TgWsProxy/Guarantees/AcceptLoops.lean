import TgWsProxy.Source.Runtime

/-!
# Accepting after an error

An accept loop returns at its first failed `accept`, and `run_server` returns with the
first loop that does. So in a run every accepted connection is handed to `route_client`
and everything goes on exactly if no `accept` fails in it (`accepting_goes_on_iff`).
The health endpoint's loop goes on after any error (`health_answers_all`).
-/

set_option autoImplicit false

namespace TgWsProxy.Guarantees.AcceptLoops
open Library Library.Transition Source.Std Source.Config Source.Runtime

section Serve
variable {Conn Err : Type}

/-- The `accept` that the event stands for fails. -/
def isError (event : Event Conn Err) : Bool :=
  match event with
  | .accept _ (.error _) => true
  | .accept _ (.ok _) | .joinNext => false

/-- The connections that the system has for the listeners, in the order of the events. -/
def connections (config : RoutedConfig) (events : List (Event Conn Err)) :
    List (Nat × Conn × RoutedConfig) :=
  events.filterMap fun event =>
    match event with
    | .accept listener (.ok conn) => some (listener, conn, config)
    | .accept _ (.error _) | .joinNext => none

/-- Every loop accepts, and `run_server` has not returned. -/
def Running (s : Server Conn Err) : Prop :=
  (∀ loop ∈ s.loops, loop.running = true) ∧ s.result = none

/-- A loop has ended. -/
def Stopped (s : Server Conn Err) : Prop := ∃ loop ∈ s.loops, loop.running = false

theorem not_running_of_stopped (s : Server Conn Err) (h : Stopped s) : ¬ Running s := by
  obtain ⟨loop, hloop, hended⟩ := h
  intro hrunning
  rw [hrunning.1 loop hloop] at hended
  cases hended

theorem stopped_modify (loops : List AcceptLoop) (listener : Nat)
    (stopped : ∃ loop ∈ loops, loop.running = false) :
    ∃ loop ∈ loops.modify listener AcceptLoop.ended, loop.running = false := by
  obtain ⟨loop, hloop, hended⟩ := stopped
  obtain ⟨i, hi⟩ := List.mem_iff_getElem?.mp hloop
  by_cases hsame : listener = i
  · refine ⟨loop.ended, List.mem_iff_getElem?.mpr ⟨i, ?_⟩, rfl⟩
    simp [hsame, hi]
  · refine ⟨loop, List.mem_iff_getElem?.mpr ⟨i, ?_⟩, hended⟩
    simp [hsame, hi]

/-- No loop starts again. -/
theorem stopped_step (s t : Server Conn Err) (event : Event Conn Err) (stopped : Stopped s)
    (h : step s event = some t) : Stopped t := by
  have hfinish : ∀ result, Stopped (s.finish result) := by
    intro result
    obtain ⟨loop, hloop, _⟩ := stopped
    exact ⟨loop.ended, List.mem_map_of_mem hloop, rfl⟩
  cases event with
  | accept listener outcome =>
    unfold step at h
    dsimp only at h
    split at h
    · cases h
    · obtain rfl := Option.some.inj h
      split
      · cases outcome with
        | ok conn => exact stopped
        | error err => exact stopped_modify s.loops listener stopped
      · exact stopped
  | joinNext =>
    unfold step at h
    dsimp only at h
    split at h
    · cases h
    · split at h
      · obtain rfl := Option.some.inj h
        exact hfinish _
      · split at h
        · cases h
        · obtain rfl := Option.some.inj h
          exact hfinish _

/-- A failed `accept` ends the loop that made it, if that had not ended before. -/
theorem stopped_of_error (s t : Server Conn Err) (event : Event Conn Err) (failed : isError event = true)
    (h : step s event = some t) : Stopped t := by
  match event with
  | .accept listener (.error err) =>
    unfold step at h
    dsimp only at h
    split at h
    · cases h
    · rename_i loop hloop
      obtain rfl := Option.some.inj h
      split
      · refine ⟨loop.ended, List.mem_iff_getElem?.mpr ⟨listener, ?_⟩, rfl⟩
        simp [Server.turn, hloop]
      · rename_i hended
        exact ⟨loop, List.mem_of_getElem? hloop, Bool.eq_false_iff.mpr hended⟩
  | .accept _ (.ok _) | .joinNext => cases failed

theorem stopped_run (s t : Server Conn Err) (events : List (Event Conn Err)) (stopped : Stopped s)
    (ends : run step s events = some t) : Stopped t :=
  run_invariant_of_step step Stopped (fun s event t hs hstep => stopped_step s t event hs hstep) s t
    events stopped ends

/-- All loops wait in `accept`, and `join_next` for them. -/
structure Serving (s : Server Conn Err) : Prop where
  running : Running s
  idle : s.finished = []
  listening : s.loops ≠ []

/-- A step without an error hands over its connection and nothing else changes. -/
theorem serving_step (s t : Server Conn Err) (event : Event Conn Err) (serving : Serving s)
    (fine : isError event = false) (h : step s event = some t) :
    Serving t ∧ t.routingConfig = s.routingConfig ∧
      t.handed = s.handed ++ connections s.routingConfig [event] := by
  obtain ⟨hrunning, hidle, hlistening⟩ := serving
  match event with
  | .accept listener (.ok conn) =>
    unfold step at h
    dsimp only at h
    split at h
    · cases h
    · rename_i loop hloop
      rw [if_pos (hrunning.1 loop (List.mem_of_getElem? hloop))] at h
      obtain rfl := Option.some.inj h
      exact ⟨⟨hrunning, hidle, hlistening⟩, rfl, rfl⟩
  | .accept _ (.error _) => cases fine
  | .joinNext =>
    unfold step at h
    dsimp only at h
    rw [hrunning.2, if_neg (by simp), if_neg hlistening, hidle] at h
    cases h

theorem serving_run (events : List (Event Conn Err)) (s t : Server Conn Err) (serving : Serving s)
    (fine : ∀ event ∈ events, isError event = false) (ends : run step s events = some t) :
    Serving t ∧ t.handed = s.handed ++ connections s.routingConfig events := by
  induction events generalizing s with
  | nil =>
    obtain rfl := Option.some.inj ends
    exact ⟨serving, by simp [connections]⟩
  | cons event events ih =>
    obtain ⟨next, hstep, hrest⟩ := (run_cons_eq_some step s t event events).mp ends
    obtain ⟨hserving, hconfig, hhanded⟩ :=
      serving_step s next event serving (fine event List.mem_cons_self) hstep
    obtain ⟨hfinal, hall⟩ :=
      ih next hserving (fun other hother => fine other (List.mem_cons_of_mem event hother)) hrest
    refine ⟨hfinal, ?_⟩
    rw [hall, hhanded, hconfig, List.append_assoc]
    congr 1
    exact (List.filterMap_append).symm

theorem start_serving (net : Net Err) (config : CliConfig) (s : Server Conn Err)
    (started : runServer net config = .ok s) : Serving s ∧ s.handed = [] := by
  unfold runServer at started
  cases hconfig : (RoutedConfig.tryFrom config).mapError ServerError.invalidInput with
  | error err =>
    rw [hconfig] at started
    cases started
  | ok routingConfig =>
    rw [hconfig] at started
    cases hbind : bindHost net config.host config.port with
    | error err =>
      rw [hbind] at started
      cases started
    | ok listeners =>
      rw [hbind] at started
      obtain rfl := Except.ok.inj started
      have hlisteners := bindHost_ne_nil net config.host config.port listeners hbind
      refine ⟨⟨⟨?_, rfl⟩, rfl, ?_⟩, rfl⟩
      · intro loop hloop
        obtain ⟨addr, -, rfl⟩ := List.mem_map.mp hloop
        rfl
      · exact fun hnil => hlisteners (List.map_eq_nil_iff.mp hnil)

/-- In a run of the started server every connection is handed to `route_client`, every
accept loop goes on and `run_server` does not return, exactly if no `accept` fails. -/
theorem accepting_goes_on_iff (net : Net Err) (config : CliConfig) (s t : Server Conn Err)
    (events : List (Event Conn Err)) (started : runServer net config = .ok s)
    (ends : run step s events = some t) :
    (t.handed = connections s.routingConfig events ∧ (∀ loop ∈ t.loops, loop.running = true) ∧
        t.result = none) ↔
      ∀ event ∈ events, isError event = false := by
  obtain ⟨hserving, hnone⟩ := start_serving net config s started
  constructor
  · intro ⟨_, hgoes⟩ event hevent
    by_contra hfailed
    obtain ⟨before, after, rfl⟩ := List.append_of_mem hevent
    obtain ⟨middle, _, hrest⟩ := (run_append_eq_some step s t before (event :: after)).mp ends
    obtain ⟨next, hstep, hafter⟩ := (run_cons_eq_some step middle t event after).mp hrest
    have hstopped := stopped_of_error middle next event (Bool.eq_true_of_not_eq_false hfailed) hstep
    exact not_running_of_stopped t (stopped_run next t after hstopped hafter) hgoes
  · intro hfine
    obtain ⟨hfinal, hhanded⟩ := serving_run events s t hserving hfine ends
    rw [hnone, List.nil_append] at hhanded
    exact ⟨hhanded, hfinal.running⟩

end Serve

/-- The health endpoint answers every connection, those behind an error included. -/
theorem health_answers_all {Conn Err : Type} (outcomes : List (Except Err Conn)) (conn : Conn) :
    conn ∈ serveHealthListener outcomes ↔ .ok conn ∈ outcomes := by
  induction outcomes with
  | nil => simp [serveHealthListener]
  | cons outcome outcomes ih =>
    cases outcome with
    | ok other => simp [serveHealthListener, ih]
    | error err => simp [serveHealthListener, ih]

/-- Two errors that `accept` gives for reasons outside the listener. -/
inductive AcceptError where
  | connectionAborted | tooManyOpenFiles
  deriving DecidableEq, Repr

def sampleNet : Net AcceptError where
  toSocketAddrs _ _ := .ok []
  bindSocket _ _ := .ok ()

def sampleConfig : RoutedConfig := ⟨15, 10, none⟩

/-- The listeners of a command line without arguments, one for each address family. -/
def sampleServer : Server Nat AcceptError where
  routingConfig := sampleConfig
  loops := [⟨.v4 ⟨0, 0, 0, 0⟩ 1080, true⟩, ⟨.v6 unspecifiedIpv6 1080 0 0, true⟩]
  handed := []
  finished := []
  result := none

theorem sampleServer_started : runServer sampleNet CliConfig.default = .ok sampleServer := by
  rfl

theorem accepting_goes_on_iff_two_clients :
    ∃ t, run step sampleServer [.accept 0 (.ok 1), .accept 1 (.ok 2)] = some t ∧
      t.handed = [(0, 1, sampleConfig), (1, 2, sampleConfig)] ∧
      (∀ loop ∈ t.loops, loop.running = true) ∧ t.result = none :=
  ⟨_, rfl, (accepting_goes_on_iff sampleNet CliConfig.default sampleServer _
    [.accept 0 (.ok 1), .accept 1 (.ok 2)] sampleServer_started rfl).mpr (by decide)⟩

/-- One client, then an aborted connection on the other listener, and a client on each. -/
def abortedRun : List (Event Nat AcceptError) :=
  [.accept 0 (.ok 1), .accept 1 (.error .connectionAborted), .accept 1 (.ok 2), .joinNext,
    .accept 0 (.ok 3)]

/-- Neither of the two later clients is served, and the server has returned. The health
endpoint's loop answers every connection behind an error. -/
theorem abort_stops_server :
    (∃ t, run step sampleServer abortedRun = some t ∧ t.handed = [(0, 1, sampleConfig)] ∧
      t.result = some (.error (.system .connectionAborted))) ∧
    (∀ (outcomes : List (Except AcceptError Nat)) (conn : Nat),
      conn ∈ serveHealthListener outcomes ↔ .ok conn ∈ outcomes) ∧
    ¬ ∀ (Conn Err : Type) (net : Net Err) (config : CliConfig) (s t : Server Conn Err)
      (events : List (Event Conn Err)), runServer net config = .ok s → run step s events = some t →
      t.handed = connections s.routingConfig events ∧ (∀ loop ∈ t.loops, loop.running = true) ∧
        t.result = none := by
  have hrun : run step sampleServer abortedRun = some _ := rfl
  refine ⟨⟨_, hrun, rfl, rfl⟩, health_answers_all, ?_⟩
  intro h
  have hresult := (h Nat AcceptError sampleNet CliConfig.default sampleServer _ abortedRun
    sampleServer_started hrun).2.2
  cases hresult

end TgWsProxy.Guarantees.AcceptLoops
