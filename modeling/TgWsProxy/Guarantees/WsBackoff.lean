import TgWsProxy.Source.Routing

/-!
# The back-off table over whole runs

Attempts on one route overlap, because a probe in flight does not refuse a second
one, and every closing call overwrites what the table holds. A 404 verdict stays
exactly as long as no other attempt closes the route differently after it
(`verdict_stays_iff`). A recorded failure cools the route down from the start of
the attempt, not from its end; the next failure puts its own deadline in the
place, and a probe of any route dated past the deadline sweeps it away
(`failure_cools_iff`).
-/

set_option autoImplicit false

namespace TgWsProxy.Guarantees.WsBackoff
open Library Library.Transition Source.Telegram Source.Ws Source.Routing

variable (aes : Aes256)

def found404 (attempt : WsConnectAttempt) : Prop := attempt.client = none ∧ attempt.all404 = true

def failed (attempt : WsConnectAttempt) : Prop := attempt.client = none ∧ attempt.all404 = false

theorem closeAttempt_of_failed (table : WsBackoff) (key : WsKey) (now : Instant)
    (attempt : WsConnectAttempt) (h : failed attempt) :
    closeAttempt table key now attempt = table.recordFailure key now := by
  simp [closeAttempt, h.1, h.2]

/-- Closing one route leaves the others alone. -/
theorem closeAttempt_of_ne (table : WsBackoff) (key other : WsKey) (now : Instant)
    (attempt : WsConnectAttempt) (h : other ≠ key) :
    (closeAttempt table key now attempt).states other = table.states other := by
  unfold closeAttempt WsBackoff.disable404 WsBackoff.recordFailure
  split
  · exact table.clear_of_ne key other h
  · split <;> exact table.insert_of_ne key other _ h

/-- Only a 404 verdict leaves the route disabled. -/
theorem closeAttempt_disabled_iff (table : WsBackoff) (key : WsKey) (now : Instant)
    (attempt : WsConnectAttempt) :
    (closeAttempt table key now attempt).states key = some .disabled404 ↔ found404 attempt := by
  unfold closeAttempt WsBackoff.disable404 WsBackoff.recordFailure found404
  split
  · rename_i domain hclient
    simp [hclient]
  · rename_i hclient
    split
    · rename_i hall
      simp [hclient, hall]
    · rename_i hall
      simp [hclient, hall]

/-! ## A 404 verdict -/

/-- An attempt on the disabled route that closes does so with a 404 too. -/
def KeepsVerdict (key : WsKey) (s : System) (event : Event) : Prop :=
  ∀ now attempt, closes s event = some (key, now, attempt) →
    s.table.states key = some .disabled404 → found404 attempt

theorem decision_disabled_iff (table : WsBackoff) (key : WsKey) (now : Instant) :
    (table.beginProbe key now).1 = .disabled404 ↔ table.states key = some .disabled404 := by
  rw [table.beginProbe_decision]
  cases hstate : table.states key with
  | none => simp [table.retain_of_none key now hstate, WsBackoff.decisionOn]
  | some state =>
    rw [table.retain_of_some key now state hstate]
    cases state with
    | disabled404 => simp [WsBackoff.survives, WsBackoff.decisionOn]
    | probing deadline | cooldown deadline =>
      split <;> simp [WsBackoff.decisionOn]

/-- A disabled route stays disabled over a step exactly if the step keeps the verdict. -/
theorem disabled_step_iff (s t : System) (event : Event) (key : WsKey)
    (disabled : s.table.states key = some .disabled404) (h : step aes s event = some t) :
    t.table.states key = some .disabled404 ↔ KeepsVerdict key s event := by
  rw [step_table aes s t event h]
  unfold tableAfter
  split
  · rename_i other now hbegins
    have hkept : (s.table.retain now).states key = some .disabled404 := by
      simp [WsBackoff.retain_states, disabled, WsBackoff.survives]
    rw [s.table.beginProbe_states]
    constructor
    · intro _ now' attempt hcloses
      rw [begins_none_of_closes s event _ hcloses] at hbegins
      cases hbegins
    · intro _
      split
      · rename_i hfresh
        obtain ⟨rfl, hnone⟩ := hfresh
        rw [hkept] at hnone
        cases hnone
      · exact hkept
  · rename_i other now attempt hbegins hcloses
    by_cases hkey : key = other
    · subst hkey
      rw [closeAttempt_disabled_iff]
      constructor
      · intro h404 now' attempt' hcloses' _
        rw [hcloses] at hcloses'
        obtain ⟨-, rfl⟩ := Prod.mk.inj (Prod.mk.inj (Option.some.inj hcloses')).2
        exact h404
      · intro hkeeps
        exact hkeeps now attempt hcloses disabled
    · rw [closeAttempt_of_ne _ _ _ _ _ hkey]
      constructor
      · intro _ now' attempt' hcloses'
        rw [hcloses] at hcloses'
        exact absurd (Prod.mk.inj (Option.some.inj hcloses')).1.symm hkey
      · intro _
        exact disabled
  · rename_i hbegins hcloses
    constructor
    · intro _ now' attempt' hcloses'
      rw [hcloses] at hcloses'
      cases hcloses'
    · intro _
      exact disabled

/-- In every state of the run a probe of the route is refused for its 404. -/
def StaysDisabled (key : WsKey) (s : System) (events : List Event) : Prop :=
  ∀ before after t, events = before ++ after → runSystem aes s before = some t →
    ∀ now, (t.table.beginProbe key now).1 = .disabled404

theorem staysDisabled_iff (key : WsKey) (s : System) (events : List Event)
    (disabled : s.table.states key = some .disabled404) :
    StaysDisabled aes key s events ↔ Along (step aes) (KeepsVerdict key) s events := by
  induction events generalizing s with
  | nil =>
    constructor
    · intro _
      trivial
    · intro _ before after t hsplit hrun now
      obtain ⟨rfl, rfl⟩ := List.append_eq_nil_iff.mp hsplit.symm
      obtain rfl := Option.some.inj hrun
      exact (decision_disabled_iff _ _ _).mpr disabled
  | cons event events ih =>
    constructor
    · intro hstays
      have hnext : ∀ t, step aes s event = some t → t.table.states key = some .disabled404 := by
        intro t ht
        exact (decision_disabled_iff t.table key 0).mp
          (hstays [event] events t rfl (by simp [Transition.run, ht]) 0)
      constructor
      · intro now attempt hcloses hdis
        obtain ⟨t, hstep⟩ := step_isSome_of_closes aes s event _ hcloses
        exact (disabled_step_iff aes s t event key disabled hstep).mp (hnext t hstep)
          now attempt hcloses hdis
      · intro t ht
        refine (ih t (hnext t ht)).mp ?_
        intro before after u hsplit hrun
        exact hstays (event :: before) after u (by rw [hsplit]; rfl)
          ((run_cons_eq_some _ _ _ _ _).mpr ⟨t, ht, hrun⟩)
    · intro halong before after u hsplit hrun now
      cases before with
      | nil =>
        obtain rfl := Option.some.inj hrun
        exact (decision_disabled_iff _ _ _).mpr disabled
      | cons first before =>
        obtain ⟨rfl, hrest⟩ := List.cons.inj hsplit
        obtain ⟨t, hstep, hrun⟩ := (run_cons_eq_some _ _ _ _ _).mp hrun
        have hnext := (disabled_step_iff aes s t event key disabled hstep).mpr halong.1
        exact (ih t hnext).mpr (halong.2 t hstep) before after u hrest hrun now

/-- After an attempt has found a 404, every later probe of its route is refused
exactly if every attempt on the route that closes after it finds a 404 too. -/
theorem verdict_stays_iff (s t : System) (event : Event) (key : WsKey) (now : Instant)
    (attempt : WsConnectAttempt) (events : List Event)
    (closing : closes s event = some (key, now, attempt)) (verdict : found404 attempt)
    (h : step aes s event = some t) :
    StaysDisabled aes key t events ↔ Along (step aes) (KeepsVerdict key) t events := by
  apply staysDisabled_iff
  rw [step_table aes s t event h, tableAfter, begins_none_of_closes s event _ closing, closing]
  exact (closeAttempt_disabled_iff _ _ _ _).mpr verdict

/-- A session to an address in the IPv4 table whose init packet names DC 2. -/
def sampleSession : Session :=
  ⟨"149.154.167.220", 443, sampleInit [0xEF, 0xEF, 0xEF, 0xEF]⟩

/-- One session up to where it begins its probe. -/
def approaching (i : Nat) : List Event :=
  [.accept i sampleSession, .readInit i true, .resolve i, .remember i, .sample i]

/-- One session up to its connection attempt. -/
def opening (i : Nat) : List Event := approaching i ++ [.probe i]

def gone : String → Option WsError := fun _ => some (.httpStatus 404 none)

def slow : String → Option WsError := fun _ => some .timeout

theorem verdict_stays_iff_both_gone :
    ∃ s t, runSystem sampleAes boot (opening 0 ++ opening 1) = some s ∧
      step sampleAes s (.finish 0 gone) = some t ∧
      (StaysDisabled sampleAes (2, false) t [.finish 1 gone] ↔
        Along (step sampleAes) (KeepsVerdict (2, false)) t [.finish 1 gone]) := by
  have hcloses : (runSystem sampleAes boot (opening 0 ++ opening 1)).bind
      (closes · (.finish 0 gone)) = some ((2, false), 0, ⟨none, true⟩) := by
    decide +kernel
  obtain ⟨s, hs, hcloses⟩ := Option.bind_eq_some_iff.mp hcloses
  obtain ⟨t, hstep⟩ := step_isSome_of_closes sampleAes s (.finish 0 gone) _ hcloses
  exact ⟨s, t, hs, hstep, verdict_stays_iff sampleAes s t (.finish 0 gone) (2, false) 0
    ⟨none, true⟩ [.finish 1 gone] hcloses ⟨rfl, rfl⟩ hstep⟩

/-- Two sessions probe the route at once. The first finds a 404; the second times
out and puts a cooldown in the verdict's place, so a third session probes again. -/
theorem verdict_lost_to_overlap :
    ∃ s t u, runSystem sampleAes boot (opening 0 ++ opening 1) = some s ∧
      closes s (.finish 0 gone) = some ((2, false), 0, ⟨none, true⟩) ∧
      step sampleAes s (.finish 0 gone) = some t ∧
      runSystem sampleAes t (.finish 1 slow :: .tick (seconds 61) :: approaching 2) = some u ∧
      begins u (.probe 2) = some ((2, false), seconds 61) ∧
      (u.table.beginProbe (2, false) (seconds 61)).1 = .probeNow := by
  have hend : (runSystem sampleAes boot ((opening 0 ++ opening 1) ++ .finish 0 gone ::
        .finish 1 slow :: .tick (seconds 61) :: approaching 2)).map
      (fun u => (begins u (.probe 2), (u.table.beginProbe (2, false) (seconds 61)).1)) =
        some (some ((2, false), seconds 61), .probeNow) := by
    decide +kernel
  have hcloses : (runSystem sampleAes boot (opening 0 ++ opening 1)).bind
      (closes · (.finish 0 gone)) = some ((2, false), 0, ⟨none, true⟩) := by
    decide +kernel
  obtain ⟨u, hu, hprobe⟩ := Option.map_eq_some_iff.mp hend
  obtain ⟨hbegins, hdecision⟩ := Prod.mk.inj hprobe
  obtain ⟨s, hs, hrest⟩ := (run_append_eq_some _ _ _ _ _).mp hu
  obtain ⟨t, hstep, hlater⟩ := (run_cons_eq_some _ _ _ _ _).mp hrest
  obtain ⟨s', hs', hcloses⟩ := Option.bind_eq_some_iff.mp hcloses
  obtain rfl := Option.some.inj (hs.symm.trans hs')
  exact ⟨s, t, u, hs, hcloses, hstep, hlater, hbegins, hdecision⟩

/-! ## A recorded failure -/

/-- No attempt on the route closes. -/
def Quiet (key : WsKey) (s : System) (event : Event) : Prop :=
  ∀ now attempt, closes s event ≠ some (key, now, attempt)

/-- A probe of any route begins with an instant before the deadline. -/
def ProbesBefore (deadline : Instant) (s : System) (event : Event) : Prop :=
  ∀ key now, begins s event = some (key, now) → now < deadline

/-- The route holds nothing but a probe in flight. -/
def Idle (key : WsKey) (s : System) : Prop :=
  ∀ state, s.table.states key = some state → ∃ deadline, state = .probing deadline

theorem decision_of_cooling (table : WsBackoff) (key : WsKey) (now deadline : Instant)
    (cooling : table.states key = some (.cooldown deadline)) :
    (table.beginProbe key now).1 = .cooldown ↔ now < deadline := by
  rw [table.beginProbe_decision, table.retain_of_some key now _ cooling]
  by_cases h : now < deadline
  · simp [WsBackoff.survives, WsBackoff.decisionOn, h]
  · simp [WsBackoff.survives, WsBackoff.decisionOn, h]

theorem decision_of_idle (key : WsKey) (s : System) (now : Instant) (idle : Idle key s) :
    (s.table.beginProbe key now).1 ≠ .cooldown := by
  rw [s.table.beginProbe_decision]
  cases hstate : s.table.states key with
  | none => simp [s.table.retain_of_none key now hstate, WsBackoff.decisionOn]
  | some state =>
    obtain ⟨deadline, rfl⟩ := idle state hstate
    rw [s.table.retain_of_some key now _ hstate]
    split <;> simp [WsBackoff.decisionOn]

/-- An event that closes nothing on the route purges the table or leaves it as it is,
and may begin a probe of the route. -/
theorem quiet_step (s t : System) (event : Event) (key : WsKey) (quiet : Quiet key s event)
    (h : step aes s event = some t) :
    (begins s event = none ∧ t.table.states key = s.table.states key) ∨
      ∃ other now, begins s event = some (other, now) ∧
        t.table.states key = (s.table.beginProbe other now).2.states key := by
  rw [step_table aes s t event h]
  unfold tableAfter
  split
  · rename_i other now hbegins
    exact .inr ⟨other, now, hbegins, rfl⟩
  · rename_i other now attempt hbegins hcloses
    refine .inl ⟨hbegins, ?_⟩
    apply closeAttempt_of_ne
    intro hkey
    exact quiet now attempt (hkey ▸ hcloses)
  · rename_i hbegins hcloses
    exact .inl ⟨hbegins, rfl⟩

/-- A cooling route stays so until a probe comes after its deadline. -/
theorem cooling_step (s t : System) (event : Event) (key : WsKey) (deadline : Instant)
    (cooling : s.table.states key = some (.cooldown deadline)) (quiet : Quiet key s event)
    (h : step aes s event = some t) :
    (ProbesBefore deadline s event ∧ t.table.states key = some (.cooldown deadline)) ∨
      (¬ ProbesBefore deadline s event ∧ Idle key t) := by
  rcases quiet_step aes s t event key quiet h with ⟨hnone, hsame⟩ | ⟨other, now, hbegins, hstate⟩
  · refine .inl ⟨?_, hsame.trans cooling⟩
    intro other now hbegins
    rw [hnone] at hbegins
    cases hbegins
  · have hretain := s.table.retain_of_some key now _ cooling
    rw [s.table.beginProbe_states] at hstate
    by_cases hnow : now < deadline
    · rw [WsBackoff.survives, if_pos (by simpa using hnow)] at hretain
      refine .inl ⟨?_, ?_⟩
      · intro other' now' hbegins'
        rw [hbegins] at hbegins'
        obtain ⟨-, rfl⟩ := Prod.mk.inj (Option.some.inj hbegins')
        exact hnow
      · rw [hstate, if_neg, hretain]
        intro hfresh
        rw [← hfresh.1, hretain] at hfresh
        cases hfresh.2
    · rw [WsBackoff.survives, if_neg (by simpa using hnow)] at hretain
      refine .inr ⟨fun hbefore => hnow (hbefore other now hbegins), ?_⟩
      intro state ht
      rw [hstate, hretain] at ht
      split at ht
      · exact ⟨_, (Option.some.inj ht).symm⟩
      · cases ht

theorem idle_step (s t : System) (event : Event) (key : WsKey) (idle : Idle key s)
    (quiet : Quiet key s event) (h : step aes s event = some t) : Idle key t := by
  intro state ht
  rcases quiet_step aes s t event key quiet h with ⟨-, hsame⟩ | ⟨other, now, -, hstate⟩
  · exact idle state (hsame ▸ ht)
  · rw [hstate, s.table.beginProbe_states] at ht
    split at ht
    · exact ⟨_, (Option.some.inj ht).symm⟩
    · rw [s.table.retain_states] at ht
      exact idle state (Option.eq_some_of_filter_eq_some ht)

/-- While nothing closes on a cooling route, a probe of it is refused for the
cooldown exactly before the deadline and after no probe past it. -/
theorem cooling_run_iff (s t : System) (events : List Event) (key : WsKey) (deadline now : Instant)
    (cooling : s.table.states key = some (.cooldown deadline))
    (quiet : Along (step aes) (Quiet key) s events) (ends : runSystem aes s events = some t) :
    (t.table.beginProbe key now).1 = .cooldown ↔
      now < deadline ∧ Along (step aes) (ProbesBefore deadline) s events := by
  induction events generalizing s with
  | nil =>
    obtain rfl := Option.some.inj ends
    rw [decision_of_cooling s.table key now deadline cooling]
    exact (and_iff_left trivial).symm
  | cons event events ih =>
    obtain ⟨next, hstep, hrest⟩ := (run_cons_eq_some _ _ _ _ _).mp ends
    have hquiet := quiet.2 next hstep
    rcases cooling_step aes s next event key deadline cooling quiet.1 hstep with
      ⟨hbefore, hcooling⟩ | ⟨hpast, hidle⟩
    · rw [ih next hcooling hquiet hrest]
      constructor
      · intro ⟨hnow, halong⟩
        refine ⟨hnow, hbefore, ?_⟩
        intro next' hstep'
        obtain rfl := Option.some.inj (hstep.symm.trans hstep')
        exact halong
      · intro ⟨hnow, halong⟩
        exact ⟨hnow, halong.2 next hstep⟩
    · have hend : Idle key t := run_invariant (step aes) (Idle key) (Quiet key)
        (fun s event t => idle_step aes s t event key) next t events hidle hquiet hrest
      constructor
      · intro hcooldown
        exact absurd hcooldown (decision_of_idle key t now hend)
      · intro ⟨_, halong⟩
        exact absurd halong.1 hpast

/-- After a recorded failure and while nothing closes on its route, a probe of the
route is refused for the cooldown exactly if it and every probe since are dated
before the cooldown's end, counted from the start of the failed attempt. -/
theorem latest_cools_iff (s t u : System) (event : Event) (key : WsKey) (started now : Instant)
    (attempt : WsConnectAttempt) (events : List Event)
    (closing : closes s event = some (key, started, attempt)) (failure : failed attempt)
    (h : step aes s event = some t) (quiet : Along (step aes) (Quiet key) t events)
    (ends : runSystem aes t events = some u) :
    (u.table.beginProbe key now).1 = .cooldown ↔
      now < started + wsFailureCooldown ∧
        Along (step aes) (ProbesBefore (started + wsFailureCooldown)) t events := by
  apply cooling_run_iff aes t u events key _ now ?_ quiet ends
  rw [step_table aes s t event h, tableAfter, begins_none_of_closes s event _ closing, closing]
  dsimp only
  rw [closeAttempt_of_failed _ _ _ _ failure, WsBackoff.recordFailure, WsBackoff.insert_self]

/-- Attempts on the route close with failures only: it is neither cleared nor disabled. -/
def OnlyFailures (key : WsKey) (s : System) (event : Event) : Prop :=
  ∀ now attempt, closes s event = some (key, now, attempt) → failed attempt

/-- The latest failure that a run records for the route: the start of its attempt,
the state that it leaves and the events since. -/
def LatestFailure (key : WsKey) (s : System) (events : List Event) (started : Instant)
    (after : System) (since : List Event) : Prop :=
  ∃ before event middle attempt, events = before ++ event :: since ∧
    runSystem aes s before = some middle ∧
    closes middle event = some (key, started, attempt) ∧ failed attempt ∧
    step aes middle event = some after ∧ Along (step aes) (Quiet key) after since

theorem quiet_or_latest (s t : System) (events : List Event) (key : WsKey)
    (failures : Along (step aes) (OnlyFailures key) s events)
    (ends : runSystem aes s events = some t) :
    Along (step aes) (Quiet key) s events ∨
      ∃ started after since, LatestFailure aes key s events started after since := by
  induction events generalizing s with
  | nil => exact .inl trivial
  | cons event events ih =>
    obtain ⟨next, hstep, hrest⟩ := (run_cons_eq_some _ _ _ _ _).mp ends
    rcases ih next (failures.2 next hstep) hrest with hquiet | hlatest
    · by_cases hcloses : ∃ started attempt, closes s event = some (key, started, attempt)
      · obtain ⟨started, attempt, hcloses⟩ := hcloses
        exact .inr ⟨started, next, events, [], event, s, attempt, rfl, rfl, hcloses,
          failures.1 started attempt hcloses, hstep, hquiet⟩
      · refine .inl ⟨fun now attempt h => hcloses ⟨now, attempt, h⟩, ?_⟩
        intro next' hstep'
        obtain rfl := Option.some.inj (hstep.symm.trans hstep')
        exact hquiet
    · obtain ⟨started, after, since, before, last, middle, attempt, rfl, hbefore, hlast⟩ := hlatest
      exact .inr ⟨started, after, since, event :: before, last, middle, attempt, rfl,
        (run_cons_eq_some _ _ _ _ _).mpr ⟨next, hstep, hbefore⟩, hlast⟩

/-- After a recorded failure, and until the route is cleared or disabled, a probe of
the route is refused for the cooldown exactly if it and every probe of whatever
route since the latest failure are dated within the cooldown's length of the start
of that failure's attempt. -/
theorem failure_cools_iff (s t u : System) (event : Event) (key : WsKey) (started now : Instant)
    (attempt : WsConnectAttempt) (events : List Event)
    (closing : closes s event = some (key, started, attempt)) (failure : failed attempt)
    (h : step aes s event = some t) (failures : Along (step aes) (OnlyFailures key) t events)
    (ends : runSystem aes t events = some u) :
    (u.table.beginProbe key now).1 = .cooldown ↔
      ∀ latest after since, LatestFailure aes key s (event :: events) latest after since →
        now < latest + wsFailureCooldown ∧
          Along (step aes) (ProbesBefore (latest + wsFailureCooldown)) after since := by
  have hrun : runSystem aes s (event :: events) = some u :=
    (run_cons_eq_some _ _ _ _ _).mpr ⟨t, h, ends⟩
  have hcools : ∀ latest after since,
      LatestFailure aes key s (event :: events) latest after since →
      ((u.table.beginProbe key now).1 = .cooldown ↔
        now < latest + wsFailureCooldown ∧
          Along (step aes) (ProbesBefore (latest + wsFailureCooldown)) after since) := by
    intro latest after since hlatest
    obtain ⟨before, last, middle, other, hsplit, hbefore, hlast, hfailed, hstep, hquiet⟩ := hlatest
    rw [hsplit] at hrun
    obtain ⟨middle', hbefore', hrest⟩ := (run_append_eq_some _ _ _ _ _).mp hrun
    obtain rfl := Option.some.inj (hbefore.symm.trans hbefore')
    obtain ⟨after', hstep', hend⟩ := (run_cons_eq_some _ _ _ _ _).mp hrest
    obtain rfl := Option.some.inj (hstep.symm.trans hstep')
    exact latest_cools_iff aes middle after u last key latest now other since hlast hfailed hstep
      hquiet hend
  constructor
  · intro hcooldown latest after since hlatest
    exact (hcools latest after since hlatest).mp hcooldown
  · intro hdates
    have hall : Along (step aes) (OnlyFailures key) s (event :: events) := by
      refine ⟨?_, ?_⟩
      · intro now' attempt' hcloses
        rw [closing] at hcloses
        obtain ⟨-, rfl⟩ := Prod.mk.inj (Prod.mk.inj (Option.some.inj hcloses)).2
        exact failure
      · intro t' ht'
        obtain rfl := Option.some.inj (h.symm.trans ht')
        exact failures
    rcases quiet_or_latest aes s u (event :: events) key hall hrun with hquiet | hlatest
    · exact absurd closing (hquiet.1 started attempt)
    · obtain ⟨latest, after, since, hlatest⟩ := hlatest
      exact (hcools latest after since hlatest).mpr (hdates latest after since hlatest)

theorem failure_cools_iff_at_once :
    ∃ s t, runSystem sampleAes boot (opening 0) = some s ∧
      step sampleAes s (.finish 0 slow) = some t ∧
      ((t.table.beginProbe (2, false) (seconds 59)).1 = .cooldown ↔
        ∀ latest after since,
          LatestFailure sampleAes (2, false) s [.finish 0 slow] latest after since →
          seconds 59 < latest + wsFailureCooldown ∧
            Along (step sampleAes) (ProbesBefore (latest + wsFailureCooldown)) after since) := by
  have hcloses : (runSystem sampleAes boot (opening 0)).bind (closes · (.finish 0 slow)) =
      some ((2, false), 0, ⟨none, false⟩) := by
    decide +kernel
  obtain ⟨s, hs, hcloses⟩ := Option.bind_eq_some_iff.mp hcloses
  obtain ⟨t, hstep⟩ := step_isSome_of_closes sampleAes s (.finish 0 slow) _ hcloses
  exact ⟨s, t, hs, hstep, failure_cools_iff sampleAes s t t (.finish 0 slow) (2, false) 0
    (seconds 59) ⟨none, false⟩ [] hcloses ⟨rfl, rfl⟩ hstep trivial rfl⟩

/-- An attempt begins at instant 0 and fails after 61 seconds. The next session is
not refused, in the very second of the failure. -/
theorem slow_failure_does_not_cool :
    ∃ s t u, runSystem sampleAes boot (opening 0 ++ [.tick (seconds 61)]) = some s ∧
      s.clock = seconds 61 ∧
      closes s (.finish 0 slow) = some ((2, false), 0, ⟨none, false⟩) ∧
      step sampleAes s (.finish 0 slow) = some t ∧
      runSystem sampleAes t (approaching 1) = some u ∧
      begins u (.probe 1) = some ((2, false), seconds 61) ∧
      (u.table.beginProbe (2, false) (seconds 61)).1 = .probeNow := by
  have hend : (runSystem sampleAes boot ((opening 0 ++ [.tick (seconds 61)]) ++
        .finish 0 slow :: approaching 1)).map
      (fun u => (begins u (.probe 1), (u.table.beginProbe (2, false) (seconds 61)).1)) =
        some (some ((2, false), seconds 61), .probeNow) := by
    decide +kernel
  have hfails : (runSystem sampleAes boot (opening 0 ++ [.tick (seconds 61)])).map
      (fun s => (s.clock, closes s (.finish 0 slow))) =
        some (seconds 61, some ((2, false), 0, ⟨none, false⟩)) := by
    decide +kernel
  obtain ⟨u, hu, hprobe⟩ := Option.map_eq_some_iff.mp hend
  obtain ⟨hbegins, hdecision⟩ := Prod.mk.inj hprobe
  obtain ⟨s, hs, hrest⟩ := (run_append_eq_some _ _ _ _ _).mp hu
  obtain ⟨t, hstep, hlater⟩ := (run_cons_eq_some _ _ _ _ _).mp hrest
  obtain ⟨s', hs', hfails⟩ := Option.map_eq_some_iff.mp hfails
  obtain rfl := Option.some.inj (hs.symm.trans hs')
  obtain ⟨hclock, hcloses⟩ := Prod.mk.inj hfails
  exact ⟨s, t, u, hs, hclock, hcloses, hstep, hlater, hbegins, hdecision⟩

end TgWsProxy.Guarantees.WsBackoff
