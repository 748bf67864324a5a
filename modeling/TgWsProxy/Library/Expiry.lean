import Mathlib.Order.Basic

/-!
# Entries that expire

Whether an entry counts depends on the instant at which one looks, and one that no longer
counts never does again (`Expiry`). So a store may drop such entries whenever it likes:
before and after, no later look can tell the cells apart (`Same.purge`).
-/

set_option autoImplicit false

namespace TgWsProxy.Library

structure Expiry (τ ν : Type*) [Preorder τ] where
  alive : τ → ν → Bool
  fades : ∀ {s t : τ} (v : ν), s ≤ t → alive t v = true → alive s v = true

namespace Expiry

variable {τ ν : Type*} [Preorder τ] (E : Expiry τ ν)

/-- What a look at a cell finds. -/
def view (now : τ) (cell : Option ν) : Option ν := cell.filter (E.alive now)

/-- No look from `t` on tells the cells apart. -/
def Same (t : τ) (c d : Option ν) : Prop := ∀ now, t ≤ now → E.view now c = E.view now d

/-- A later look does not see what an earlier one does not. -/
theorem view_view (s t : τ) (cell : Option ν) (h : s ≤ t) :
    E.view t (E.view s cell) = E.view t cell := by
  unfold view
  cases cell with
  | none => rfl
  | some v =>
    by_cases hs : E.alive s v = true
    · simp [Option.filter_some, hs]
    · have ht : ¬ E.alive t v = true := fun hlater => hs (E.fades v h hlater)
      simp [Option.filter_some, hs, ht]

theorem Same.refl (t : τ) (c : Option ν) : E.Same t c c := fun _ _ => rfl

theorem Same.later (s t : τ) (c d : Option ν) (same : E.Same s c d) (h : s ≤ t) : E.Same t c d :=
  fun now hnow => same now (le_trans h hnow)

/-- To drop what has expired by `t` does not show from `t` on. -/
theorem Same.purge (s t : τ) (c d : Option ν) (same : E.Same s c d) (h : s ≤ t) :
    E.Same t (E.view t c) d := by
  intro now hnow
  rw [E.view_view t now c hnow]
  exact same now (le_trans h hnow)

end Expiry

end TgWsProxy.Library
