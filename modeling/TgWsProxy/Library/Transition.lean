import Mathlib.Data.List.Induction
import Mathlib.Data.Option.Basic

/-!
# Runs of a step function

A system that moves by labelled steps is a partial step function: a label that
the present state does not allow has no successor. A run is the list of its
labels, so every interleaving of concurrent parties is one such list.

An invariant that each step preserves holds at the end of every run
(`run_invariant`). Where a step preserves it only under a condition on its state
and label, the run has to meet that condition at each step (`Along`).

Where every step lowers a weight no run is longer than the weight it starts with
(`run_length`), and each can be continued until no label is left to take
(`exists_stuck`).
-/

set_option autoImplicit false

namespace TgWsProxy.Library.Transition

variable {σ ι : Type} (step : σ → ι → Option σ)

def run (s : σ) : List ι → Option σ
  | [] => some s
  | label :: labels => (step s label).bind fun t => run t labels

/-- Each step of the run is taken from a state that meets the condition. -/
def Along (condition : σ → ι → Prop) (s : σ) : List ι → Prop
  | [] => True
  | label :: labels =>
    condition s label ∧ ∀ t ∈ step s label, Along condition t labels

instance decidableAlong (condition : σ → ι → Prop) [∀ s label, Decidable (condition s label)] :
    (s : σ) → (labels : List ι) → Decidable (Along step condition s labels)
  | _, [] => inferInstanceAs (Decidable True)
  | s, label :: labels =>
    have := fun t => decidableAlong condition t labels
    inferInstanceAs (Decidable (condition s label ∧ ∀ t ∈ step s label, Along step condition t labels))

theorem run_cons_eq_some (s t : σ) (label : ι) (labels : List ι) :
    run step s (label :: labels) = some t ↔
      ∃ next, step s label = some next ∧ run step next labels = some t := by
  simp only [run, Option.bind_eq_some_iff]

theorem run_append_eq_some (s t : σ) (before after : List ι) :
    run step s (before ++ after) = some t ↔
      ∃ middle, run step s before = some middle ∧ run step middle after = some t := by
  induction before generalizing s with
  | nil => simp [run]
  | cons label before ih =>
    simp only [List.cons_append, run_cons_eq_some, ih]
    constructor
    · intro ⟨next, hstep, middle, hbefore, hafter⟩
      exact ⟨middle, ⟨next, hstep, hbefore⟩, hafter⟩
    · intro ⟨middle, ⟨next, hstep, hbefore⟩, hafter⟩
      exact ⟨next, hstep, middle, hbefore, hafter⟩

/-- What is left of a run behind one of its steps. -/
theorem run_rest (s middle next t : σ) (before after : List ι) (label : ι)
    (ends : run step s (before ++ label :: after) = some t)
    (reached : run step s before = some middle) (taken : step middle label = some next) :
    run step next after = some t := by
  obtain ⟨middle', hmiddle, hrest⟩ := (run_append_eq_some step s t before _).mp ends
  obtain rfl := Option.some.inj (reached.symm.trans hmiddle)
  obtain ⟨next', hnext, hrest⟩ := (run_cons_eq_some step middle t label after).mp hrest
  obtain rfl := Option.some.inj (taken.symm.trans hnext)
  exact hrest

theorem along_of_forall (condition : ι → Prop) (s : σ) (labels : List ι)
    (h : ∀ label ∈ labels, condition label) :
    Along step (fun _ label => condition label) s labels := by
  induction labels generalizing s with
  | nil => trivial
  | cons label labels ih =>
    exact ⟨h label List.mem_cons_self, fun t _ =>
      ih t fun other mem => h other (List.mem_cons_of_mem label mem)⟩

/-- What every step preserves under a condition holds after a run that meets it. -/
theorem run_invariant (invariant : σ → Prop) (condition : σ → ι → Prop)
    (preserved : ∀ s label t, invariant s → condition s label → step s label = some t → invariant t)
    (s t : σ) (labels : List ι) (start : invariant s) (along : Along step condition s labels)
    (ends : run step s labels = some t) : invariant t := by
  induction labels generalizing s with
  | nil =>
    obtain rfl := Option.some.inj ends
    exact start
  | cons label labels ih =>
    obtain ⟨next, hstep, hrest⟩ := (run_cons_eq_some step s t label labels).mp ends
    exact ih next (preserved s label next start along.1 hstep) (along.2 next hstep) hrest

/-- What every step preserves holds after every run. -/
theorem run_invariant_of_step (invariant : σ → Prop)
    (preserved : ∀ s label t, invariant s → step s label = some t → invariant t)
    (s t : σ) (labels : List ι) (start : invariant s) (ends : run step s labels = some t) :
    invariant t :=
  run_invariant step invariant (fun _ _ => True) (fun s label t hs _ => preserved s label t hs) s t
    labels start (along_of_forall step (fun _ => True) s labels fun _ _ => trivial) ends

section Outputs
variable {α : Type} (out : σ → ι → σ → List α)

/-- What the steps of a run put out, one after another. -/
def outputs (s : σ) : List ι → List α
  | [] => []
  | label :: labels =>
    match step s label with
    | none => []
    | some t => out s label t ++ outputs t labels

theorem outputs_cons (s next : σ) (label : ι) (labels : List ι) (h : step s label = some next) :
    outputs step out s (label :: labels) = out s label next ++ outputs step out next labels := by
  rw [outputs, h]

/-- What every step preserves of the state and the outputs so far, under a condition. -/
theorem run_outputs (invariant : σ → List α → Prop) (condition : σ → ι → Prop)
    (preserved : ∀ s before label t, invariant s before → condition s label →
      step s label = some t → invariant t (before ++ out s label t))
    (s t : σ) (before : List α) (labels : List ι) (start : invariant s before)
    (along : Along step condition s labels) (ends : run step s labels = some t) :
    invariant t (before ++ outputs step out s labels) := by
  induction labels generalizing s before with
  | nil =>
    obtain rfl := Option.some.inj ends
    rwa [outputs, List.append_nil]
  | cons label labels ih =>
    obtain ⟨next, hstep, hrest⟩ := (run_cons_eq_some step s t label labels).mp ends
    have hnext := preserved s before label next start along.1 hstep
    rw [outputs_cons step out s next label labels hstep, ← List.append_assoc]
    exact ih next _ hnext (along.2 next hstep) hrest

/-- If an output is good only under a condition, a run with good outputs meets it. -/
theorem along_of_outputs (invariant : σ → Prop) (condition : σ → ι → Prop) (good : α → Prop)
    (preserved : ∀ s label t, invariant s → step s label = some t → invariant t)
    (needed : ∀ s label t, invariant s → step s label = some t →
      (∀ a ∈ out s label t, good a) → condition s label)
    (s t : σ) (labels : List ι) (start : invariant s) (ends : run step s labels = some t)
    (outs : ∀ a ∈ outputs step out s labels, good a) : Along step condition s labels := by
  induction labels generalizing s with
  | nil => trivial
  | cons label labels ih =>
    obtain ⟨next, hstep, hrest⟩ := (run_cons_eq_some step s t label labels).mp ends
    rw [outputs_cons step out s next label labels hstep] at outs
    constructor
    · exact needed s label next start hstep fun a ha => outs a (List.mem_append_left _ ha)
    · intro other hother
      obtain rfl := Option.some.inj (hstep.symm.trans hother)
      exact ih next (preserved s label next start hstep) hrest fun a ha =>
        outs a (List.mem_append_right _ ha)

/-- Outputs that depend on the labels alone. -/
theorem outputs_eq_flatMap (put : ι → List α) (s t : σ) (labels : List ι)
    (ends : run step s labels = some t) :
    outputs step (fun _ label _ => put label) s labels = labels.flatMap put := by
  induction labels generalizing s with
  | nil => rfl
  | cons label labels ih =>
    obtain ⟨next, hstep, hrest⟩ := (run_cons_eq_some step s t label labels).mp ends
    rw [outputs_cons step _ s next label labels hstep, ih next hrest, List.flatMap_cons]

/-- A run puts nothing out exactly if each of its steps is silent. -/
theorem outputs_eq_nil_iff (silent : σ → ι → Prop)
    (spec : ∀ s label t, step s label = some t → (out s label t = [] ↔ silent s label))
    (s t : σ) (labels : List ι) (ends : run step s labels = some t) :
    outputs step out s labels = [] ↔ Along step silent s labels := by
  induction labels generalizing s with
  | nil => exact iff_of_true rfl trivial
  | cons label labels ih =>
    obtain ⟨next, hstep, hrest⟩ := (run_cons_eq_some step s t label labels).mp ends
    rw [outputs_cons step out s next label labels hstep, List.append_eq_nil_iff, ih next hrest,
      spec s label next hstep, Along, hstep]
    simp only [Option.mem_def, Option.some.injEq, forall_eq']

/-- The step that puts out the last of a run's outputs. -/
theorem getLast?_outputs_iff (s t : σ) (labels : List ι) (a : α)
    (ends : run step s labels = some t) :
    (outputs step out s labels).getLast? = some a ↔
      ∃ before label after middle next, labels = before ++ label :: after ∧
        run step s before = some middle ∧ step middle label = some next ∧
        (out middle label next).getLast? = some a ∧ outputs step out next after = [] := by
  induction labels generalizing s with
  | nil => simp [outputs]
  | cons first labels ih =>
    obtain ⟨start, hfirst, hrest⟩ := (run_cons_eq_some step s t first labels).mp ends
    rw [outputs_cons step out s start first labels hfirst, List.getLast?_append]
    constructor
    · intro hlast
      rcases Option.or_eq_some_iff.mp hlast with hlater | ⟨hnone, hhere⟩
      · obtain ⟨before, label, after, middle, next, rfl, hrun, hcase⟩ := (ih start hrest).mp hlater
        exact ⟨first :: before, label, after, middle, next, rfl,
          (run_cons_eq_some step s middle first before).mpr ⟨start, hfirst, hrun⟩, hcase⟩
      · exact ⟨[], first, labels, s, start, rfl, rfl, hfirst, hhere,
          List.getLast?_eq_none_iff.mp hnone⟩
    · rintro ⟨before, label, after, middle, next, hsplit, hrun, hstep, hlast, hsilent⟩
      cases before with
      | nil =>
        obtain ⟨rfl, rfl⟩ := List.cons.inj hsplit
        obtain rfl := Option.some.inj hrun
        obtain rfl := Option.some.inj (hfirst.symm.trans hstep)
        rw [hsilent, hlast]
        rfl
      | cons other before =>
        obtain ⟨rfl, rfl⟩ := List.cons.inj hsplit
        obtain ⟨start', hfirst', hrun⟩ := (run_cons_eq_some step s middle first before).mp hrun
        obtain rfl := Option.some.inj (hfirst.symm.trans hfirst')
        have hlater := (ih start hrest).mpr
          ⟨before, label, after, middle, next, rfl, hrun, hstep, hlast, hsilent⟩
        rw [hlater]
        rfl

end Outputs

section Component
variable {τ κ : Type} (inner : τ → κ → Option τ) (project : σ → τ) (moves : σ → ι → List κ)

/-- If every step is, seen from a component, a run of it, then so is every run. -/
theorem run_component
    (simulates : ∀ s label t, step s label = some t →
      run inner (project s) (moves s label) = some (project t))
    (s t : σ) (labels : List ι) (ends : run step s labels = some t) :
    run inner (project s) (outputs step (fun s label _ => moves s label) s labels) =
      some (project t) := by
  induction labels generalizing s with
  | nil =>
    obtain rfl := Option.some.inj ends
    rfl
  | cons label labels ih =>
    obtain ⟨next, hstep, hrest⟩ := (run_cons_eq_some step s t label labels).mp ends
    rw [outputs_cons step _ s next label labels hstep, run_append_eq_some]
    exact ⟨project next, simulates s label next hstep, ih next hrest⟩

end Component

section Termination
variable (weight : σ → Nat) (invariant : σ → Prop) (allowed : ι → Prop)

/-- No label of this kind can be taken. -/
def Stuck (s : σ) : Prop := ∀ label, allowed label → step s label = none

/-- If every step lowers a weight, a run has at most as many steps as it uses up weight. -/
theorem run_length
    (lowers : ∀ s label t, invariant s → step s label = some t → invariant t ∧ weight t < weight s)
    (s t : σ) (labels : List ι) (start : invariant s) (ends : run step s labels = some t) :
    labels.length + weight t ≤ weight s := by
  induction labels generalizing s with
  | nil =>
    obtain rfl := Option.some.inj ends
    simp
  | cons label labels ih =>
    obtain ⟨next, hstep, hrest⟩ := (run_cons_eq_some step s t label labels).mp ends
    obtain ⟨hnext, hlower⟩ := lowers s label next start hstep
    have hrun := ih next hnext hrest
    rw [List.length_cons]
    omega

/-- If every step lowers a weight, some run of these labels goes on until it is stuck. -/
theorem exists_stuck
    (lowers : ∀ s label t, invariant s → step s label = some t → invariant t ∧ weight t < weight s)
    (s : σ) (start : invariant s) :
    ∃ labels t, (∀ label ∈ labels, allowed label) ∧ run step s labels = some t ∧
      Stuck step allowed t := by
  induction hw : weight s using Nat.strongRecOn generalizing s with
  | _ n ih =>
    by_cases hstuck : Stuck step allowed s
    · exact ⟨[], s, by simp, rfl, hstuck⟩
    · simp only [Stuck, not_forall] at hstuck
      obtain ⟨label, hallowed, hstep⟩ := hstuck
      obtain ⟨next, hnext⟩ := Option.ne_none_iff_exists'.mp hstep
      obtain ⟨hinv, hlower⟩ := lowers s label next start hnext
      obtain ⟨labels, t, hall, hrun, hend⟩ := ih (weight next) (hw ▸ hlower) next hinv rfl
      refine ⟨label :: labels, t, ?_, (run_cons_eq_some step s t label labels).mpr ⟨next, hnext, hrun⟩, hend⟩
      intro other hmem
      rcases List.mem_cons.mp hmem with rfl | hmem
      · exact hallowed
      · exact hall other hmem

end Termination

section Observed
variable {γ : Type} (observe : γ → σ → ι → γ)

/-- The system with a record of its steps that none of them reads. -/
def observed (m : σ × γ) (label : ι) : Option (σ × γ) :=
  (step m.1 label).map fun t => (t, observe m.2 m.1 label)

theorem observed_eq_some (m m' : σ × γ) (label : ι) :
    observed step observe m label = some m' ↔
      step m.1 label = some m'.1 ∧ m'.2 = observe m.2 m.1 label := by
  unfold observed
  rw [Option.map_eq_some_iff]
  constructor
  · rintro ⟨t, hstep, rfl⟩
    exact ⟨hstep, rfl⟩
  · rintro ⟨hstep, hrecord⟩
    exact ⟨m'.1, hstep, by rw [← hrecord]⟩

/-- The record neither adds a run nor forbids one. -/
theorem run_observed (m : σ × γ) (labels : List ι) :
    (run (observed step observe) m labels).map Prod.fst = run step m.1 labels := by
  induction labels generalizing m with
  | nil => rfl
  | cons label labels ih =>
    simp only [run, observed]
    cases step m.1 label with
    | none => rfl
    | some t => exact ih (t, observe m.2 m.1 label)

end Observed

section History
variable (s₀ : σ)

/-- An invariant that speaks of the run so far holds after every run. -/
theorem run_history (invariant : List ι → σ → Prop) (start : invariant [] s₀)
    (preserved : ∀ before s label t, run step s₀ before = some s → invariant before s →
      step s label = some t → invariant (before ++ [label]) t)
    (t : σ) (labels : List ι) (ends : run step s₀ labels = some t) : invariant labels t := by
  induction labels using List.reverseRecOn generalizing t with
  | nil =>
    obtain rfl := Option.some.inj ends
    exact start
  | append_singleton labels label ih =>
    obtain ⟨s, hbefore, hlast⟩ := (run_append_eq_some step s₀ t labels [label]).mp ends
    obtain ⟨next, hstep, hnext⟩ := (run_cons_eq_some step s t label []).mp hlast
    obtain rfl := Option.some.inj hnext
    exact preserved labels s label next hbefore (ih s hbefore) hstep

/-- Behind its first labels a run passes through these states, in this order. -/
def Visits (front : List ι) : List σ → List ι → Prop
  | [], labels => front <+: labels
  | s :: states, labels => ∃ before, front <+: before ∧ run step s₀ before = some s ∧
      Visits before states labels

theorem visits_more (front : List ι) (states : List σ) (labels more : List ι)
    (h : Visits step s₀ front states labels) : Visits step s₀ front states (labels ++ more) := by
  induction states generalizing front with
  | nil => exact List.IsPrefix.trans h (List.prefix_append labels more)
  | cons s states ih =>
    obtain ⟨before, hfront, hrun, hrest⟩ := h
    exact ⟨before, hfront, hrun, ih before hrest⟩

/-- The state that a run ends in comes after all that it has passed through. -/
theorem visits_snoc (front : List ι) (states : List σ) (labels : List ι) (s : σ)
    (h : Visits step s₀ front states labels) (ends : run step s₀ labels = some s) :
    Visits step s₀ front (states ++ [s]) labels := by
  induction states generalizing front with
  | nil => exact ⟨labels, h, ends, List.prefix_refl labels⟩
  | cons first states ih =>
    obtain ⟨before, hfront, hrun, hrest⟩ := h
    exact ⟨before, hfront, hrun, ih before hrest⟩

end History

end TgWsProxy.Library.Transition
