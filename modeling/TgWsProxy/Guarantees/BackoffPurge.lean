import Mathlib.Data.Nat.Basic
import TgWsProxy.Library.Expiry
import TgWsProxy.Source.Routing.Backoff

/-!
# The purge of the back-off table

`begin_probe` drops the expired entries of every route before it decides. Over any sequence
of the four operations, with the instants of `begin_probe` in call order, each decision is
the one that the latest write to its own route calls for in a table that is never purged
(`decision_by_latest_write`). The failures may be recorded with any instants.
-/

set_option autoImplicit false

namespace TgWsProxy.Guarantees.BackoffPurge
open Library Source.Routing Source.Routing.WsBackoff

inductive TableOp where
  | beginProbe (key : WsKey) (now : Instant)
  | recordFailure (key : WsKey) (now : Instant)
  | disable404 (key : WsKey)
  | clear (key : WsKey)
  deriving DecidableEq, Repr

namespace TableOp

def key (op : TableOp) : WsKey :=
  match op with
  | .beginProbe key _ | .recordFailure key _ | .disable404 key | .clear key => key

/-- The instants that have to be in order. -/
def probedAt (op : TableOp) : Option Instant :=
  match op with
  | .beginProbe _ now => some now
  | _ => none

end TableOp

/-- One operation on the table; the decision of `begin_probe` is left out. -/
def perform (b : WsBackoff) (op : TableOp) : WsBackoff :=
  match op with
  | .beginProbe key now => (b.beginProbe key now).2
  | .recordFailure key now => b.recordFailure key now
  | .disable404 key => b.disable404 key
  | .clear key => b.clear key

/-- The decision that the latest write to a route calls for. -/
def decisionAt (latest : Option WsState) (now : Instant) : WsDecision :=
  match latest with
  | some (.probing deadline) => if deadline ≤ now then .probeNow else .probeInFlight
  | some (.cooldown deadline) => if deadline ≤ now then .probeNow else .cooldown
  | some .disabled404 => .disabled404
  | none => .probeNow

/-- An operation on the route writes it; `begin_probe` does so if it answers that the caller
is to probe. -/
def writeCell (latest : Option WsState) (op : TableOp) : Option WsState :=
  match op with
  | .beginProbe _ now =>
    if decisionAt latest now = .probeNow then some (.probing (now + wsAttemptWindow)) else latest
  | .recordFailure _ now => some (.cooldown (now + wsFailureCooldown))
  | .disable404 _ => some .disabled404
  | .clear _ => none

/-- The latest write to a route in a table that is never purged; a `clear` leaves nothing. -/
def latestWrite (key : WsKey) (ops : List TableOp) : Option WsState :=
  (ops.filter fun op => op.key = key).foldl writeCell none

/-- The instants of `begin_probe` do not go back. -/
def InOrder (ops : List TableOp) : Prop := (ops.filterMap TableOp.probedAt).Pairwise (· ≤ ·)

instance (ops : List TableOp) : Decidable (InOrder ops) :=
  inferInstanceAs (Decidable (List.Pairwise _ _))

/-- The entries of the table: a later look finds no more than an earlier one. -/
def entryExpiry : Expiry Instant WsState where
  alive := survives
  fades := by
    intro s t state h halive
    cases state with
    | disabled404 => rfl
    | probing deadline | cooldown deadline =>
      simp only [survives, decide_eq_true_eq] at halive ⊢
      exact Nat.lt_of_le_of_lt h halive

theorem retain_view (b : WsBackoff) (key : WsKey) (now : Instant) :
    (b.retain now).states key = entryExpiry.view now (b.states key) := rfl

theorem decisionAt_view (latest : Option WsState) (now : Instant) :
    decisionAt latest now = decisionOn (entryExpiry.view now latest) := by
  unfold Expiry.view entryExpiry
  dsimp only
  cases latest with
  | none => rfl
  | some state =>
    cases state with
    | disabled404 => rfl
    | probing deadline | cooldown deadline =>
      rw [Option.filter_some, survives, decisionAt]
      by_cases h : deadline ≤ now
      · simp [h, Nat.not_lt.mpr h, decisionOn]
      · simp [h, Nat.lt_of_not_le h, decisionOn]

theorem decisionOn_probeNow_iff (state : Option WsState) :
    decisionOn state = .probeNow ↔ state = none := by
  cases state with
  | none => simp [decisionOn]
  | some state => cases state <;> simp [decisionOn]

/-! ## One operation -/

/-- An operation on the route itself keeps its cell like the unpurged one. -/
theorem same_perform_own (b : WsBackoff) (latest : Option WsState) (t : Instant) (op : TableOp)
    (same : entryExpiry.Same t (b.states op.key) latest) (order : ∀ now ∈ op.probedAt, t ≤ now) :
    entryExpiry.Same (op.probedAt.getD t) ((perform b op).states op.key) (writeCell latest op) := by
  cases op with
  | beginProbe key now =>
    have hle : t ≤ now := order now rfl
    have hview : entryExpiry.view now (b.states key) = entryExpiry.view now latest := same now hle
    simp only [perform, TableOp.key, TableOp.probedAt, Option.getD_some, writeCell, beginProbe_states,
      retain_view, decisionAt_view, decisionOn_probeNow_iff, true_and, hview]
    by_cases hnone : entryExpiry.view now latest = none
    · rw [if_pos hnone, if_pos hnone]
      exact Expiry.Same.refl _ _ _
    · rw [if_neg hnone, if_neg hnone]
      exact Expiry.Same.purge _ now now latest latest (Expiry.Same.refl _ _ _) (Nat.le_refl _)
  | recordFailure key now =>
    simp only [perform, TableOp.key, recordFailure, insert_self, writeCell]
    exact Expiry.Same.refl _ _ _
  | disable404 key =>
    simp only [perform, TableOp.key, disable404, insert_self, writeCell]
    exact Expiry.Same.refl _ _ _
  | clear key =>
    simp only [perform, TableOp.key, clear_self, writeCell]
    exact Expiry.Same.refl _ _ _

/-- An operation on another route at most purges the cell. -/
theorem same_perform_other (b : WsBackoff) (latest : Option WsState) (t : Instant) (op : TableOp)
    (key : WsKey) (other : op.key ≠ key) (same : entryExpiry.Same t (b.states key) latest)
    (order : ∀ now ∈ op.probedAt, t ≤ now) :
    entryExpiry.Same (op.probedAt.getD t) ((perform b op).states key) latest := by
  cases op with
  | beginProbe own now =>
    have hkey : ¬ (key = own ∧ (b.retain now).states own = none) := fun h => other h.1.symm
    simp only [perform, TableOp.probedAt, Option.getD_some, beginProbe_states, if_neg hkey]
    exact Expiry.Same.purge _ t now _ _ same (order now rfl)
  | recordFailure own now =>
    simp only [perform, recordFailure, insert_of_ne b own key _ (Ne.symm other)]
    exact same
  | disable404 own =>
    simp only [perform, disable404, insert_of_ne b own key _ (Ne.symm other)]
    exact same
  | clear own =>
    simp only [perform, clear_of_ne b own key (Ne.symm other)]
    exact same

/-! ## Any sequence of operations -/

/-- A look behind the latest `begin_probe` finds what it would find in the unpurged cell. -/
theorem same_run (key : WsKey) (ops : List TableOp) (b : WsBackoff) (latest : Option WsState)
    (t now : Instant) (same : entryExpiry.Same t (b.states key) latest)
    (order : (t :: ops.filterMap TableOp.probedAt).Pairwise (· ≤ ·))
    (behind : ∀ s ∈ t :: ops.filterMap TableOp.probedAt, s ≤ now) :
    entryExpiry.view now ((ops.foldl perform b).states key) =
      entryExpiry.view now ((ops.filter fun op => op.key = key).foldl writeCell latest) := by
  induction ops generalizing b latest t with
  | nil => exact same now (behind t List.mem_cons_self)
  | cons op ops ih =>
    have hfirst : ∀ s ∈ op.probedAt, t ≤ s := by
      intro s hs
      rw [List.filterMap_cons_some hs] at order
      exact List.rel_of_pairwise_cons order List.mem_cons_self
    have hnext : (op.probedAt.getD t :: ops.filterMap TableOp.probedAt).Sublist
        (t :: (op :: ops).filterMap TableOp.probedAt) := by
      cases hprobe : op.probedAt with
      | none =>
        simp only [List.filterMap_cons_none hprobe, Option.getD_none, List.Sublist.refl]
      | some s =>
        rw [List.filterMap_cons_some hprobe, Option.getD_some]
        exact List.sublist_cons_self t _
    have horder := order.sublist hnext
    have hbehind := fun s hs => behind s (hnext.subset hs)
    rw [List.foldl_cons, List.filter_cons]
    by_cases hkey : op.key = key
    · subst hkey
      rw [if_pos (decide_eq_true rfl), List.foldl_cons]
      exact ih _ _ _ (same_perform_own b latest t op same hfirst) horder hbehind
    · rw [if_neg (by simpa using hkey)]
      exact ih _ _ _ (same_perform_other b latest t op key hkey same hfirst) horder hbehind

theorem decision_eq (key : WsKey) (before : List TableOp) (now : Instant)
    (order : InOrder (before ++ [.beginProbe key now])) :
    ((before.foldl perform empty).beginProbe key now).1 = decisionAt (latestWrite key before) now := by
  unfold InOrder at order
  rw [List.filterMap_append, List.pairwise_append] at order
  obtain ⟨hbefore, -, hlast⟩ := order
  rw [beginProbe_decision, retain_view, decisionAt_view, latestWrite]
  congr 1
  apply same_run key before empty none 0 now (Expiry.Same.refl _ _ _)
  · exact List.pairwise_cons.mpr ⟨fun s _ => Nat.zero_le s, hbefore⟩
  · intro s hs
    rcases List.mem_cons.mp hs with rfl | hs
    · exact Nat.zero_le now
    · exact hlast s hs now (by simp [TableOp.probedAt])

theorem decisionAt_iff (latest : Option WsState) (now : Instant) :
    (decisionAt latest now = .probeNow ↔ latest = none ∨ ∃ deadline, deadline ≤ now ∧
      (latest = some (.probing deadline) ∨ latest = some (.cooldown deadline))) ∧
    (decisionAt latest now = .probeInFlight ↔
      ∃ deadline, now < deadline ∧ latest = some (.probing deadline)) ∧
    (decisionAt latest now = .cooldown ↔
      ∃ deadline, now < deadline ∧ latest = some (.cooldown deadline)) ∧
    (decisionAt latest now = .disabled404 ↔ latest = some .disabled404) := by
  cases latest with
  | none => simp [decisionAt]
  | some state =>
    cases state with
    | disabled404 => simp [decisionAt]
    | probing deadline | cooldown deadline =>
      by_cases h : deadline ≤ now
      · simp [decisionAt, h]
      · simp [decisionAt, h, Nat.lt_of_not_le h]

/-- Every decision in a sequence is the one that the latest write to its route calls for, and
is the same if the operations on all other routes are deleted. -/
theorem decision_by_latest_write (ops before after : List TableOp) (key : WsKey) (now : Instant)
    (order : InOrder ops) (call : ops = before ++ .beginProbe key now :: after) :
    let decision := ((before.foldl perform empty).beginProbe key now).1
    let latest := latestWrite key before
    (decision = .probeNow ↔ latest = none ∨ ∃ deadline, deadline ≤ now ∧
      (latest = some (.probing deadline) ∨ latest = some (.cooldown deadline))) ∧
    (decision = .probeInFlight ↔ ∃ deadline, now < deadline ∧ latest = some (.probing deadline)) ∧
    (decision = .cooldown ↔ ∃ deadline, now < deadline ∧ latest = some (.cooldown deadline)) ∧
    (decision = .disabled404 ↔ latest = some .disabled404) ∧
    (((before.filter fun op => op.key = key).foldl perform empty).beginProbe key now).1 =
      decision := by
  have hsub : (before ++ [TableOp.beginProbe key now]).Sublist ops := by
    rw [call]
    exact (List.Sublist.refl before).append ((List.nil_sublist after).cons_cons _)
  have horder : InOrder (before ++ [.beginProbe key now]) := order.sublist (hsub.filterMap _)
  have hown : InOrder ((before.filter fun op => op.key = key) ++ [.beginProbe key now]) :=
    order.sublist ((((List.filter_sublist).append (List.Sublist.refl _)).trans hsub).filterMap _)
  have hsame : latestWrite key (before.filter fun op => op.key = key) = latestWrite key before := by
    unfold latestWrite
    rw [List.filter_filter]
    simp
  dsimp only
  rw [decision_eq key _ now hown, hsame, decision_eq key before now horder]
  obtain ⟨hnow, hflight, hcooldown, hdisabled⟩ := decisionAt_iff (latestWrite key before) now
  exact ⟨hnow, hflight, hcooldown, hdisabled, rfl⟩

def sampleKey : WsKey := (2, false)

def otherKey : WsKey := (4, true)

/-- A failure recorded with a stale instant, and a probe of another route that purges it. -/
def staleOps : List TableOp :=
  [.beginProbe sampleKey (seconds 100), .recordFailure sampleKey (seconds 10),
    .beginProbe otherKey (seconds 101)]

theorem decision_by_latest_write_stale :
    ((staleOps.foldl perform empty).beginProbe sampleKey (seconds 102)).1 = .probeNow :=
  (decision_by_latest_write (staleOps ++ [.beginProbe sampleKey (seconds 102)]) staleOps [] sampleKey
    (seconds 102) (by decide) rfl).1.mpr (.inr ⟨seconds 70, by decide, .inr (by decide)⟩)

end TgWsProxy.Guarantees.BackoffPurge
