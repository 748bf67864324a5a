import Mathlib.Logic.Function.Basic

/-!
# WebSocket back-off table

`modules/routing/backoff.rs`. The table is a map from routes to their states,
and each of the four operations is one access under its lock. Instants count
nanoseconds, so an addition on them is exact.

`begin_probe` first drops every entry whose deadline has passed; `Disabled404`
has none and stays.
-/

set_option autoImplicit false

namespace TgWsProxy.Source.Routing

abbrev Instant := Nat

def seconds (n : Nat) : Nat := n * 1000000000

def wsFailureCooldown : Nat := seconds 60

def wsAttemptWindow : Nat := seconds 15

/-- Data centre and media flag. -/
abbrev WsKey := UInt8 × Bool

inductive WsState where
  | probing (deadline : Instant)
  | cooldown (deadline : Instant)
  | disabled404
  deriving DecidableEq, Repr

inductive WsDecision where
  | probeNow | probeInFlight | cooldown | disabled404
  deriving DecidableEq, Repr

structure WsBackoff where
  states : WsKey → Option WsState

namespace WsBackoff

def empty : WsBackoff := ⟨fun _ => none⟩

/-- The test of the `retain` that opens `begin_probe`. -/
def survives (now : Instant) (state : WsState) : Bool :=
  match state with
  | .probing deadline | .cooldown deadline => deadline > now
  | .disabled404 => true

def retain (b : WsBackoff) (now : Instant) : WsBackoff :=
  ⟨fun key => (b.states key).filter (survives now)⟩

def insert (b : WsBackoff) (key : WsKey) (state : WsState) : WsBackoff :=
  ⟨Function.update b.states key (some state)⟩

def beginProbe (b : WsBackoff) (key : WsKey) (now : Instant) : WsDecision × WsBackoff :=
  let kept := b.retain now
  match kept.states key with
  | some (.probing _) => (.probeInFlight, kept)
  | some (.cooldown _) => (.cooldown, kept)
  | some .disabled404 => (.disabled404, kept)
  | none => (.probeNow, kept.insert key (.probing (now + wsAttemptWindow)))

def recordFailure (b : WsBackoff) (key : WsKey) (now : Instant) : WsBackoff :=
  b.insert key (.cooldown (now + wsFailureCooldown))

def disable404 (b : WsBackoff) (key : WsKey) : WsBackoff := b.insert key .disabled404

def clear (b : WsBackoff) (key : WsKey) : WsBackoff := ⟨Function.update b.states key none⟩

@[simp] theorem insert_self (b : WsBackoff) (key : WsKey) (state : WsState) :
    (b.insert key state).states key = some state := by
  simp [insert]

theorem insert_of_ne (b : WsBackoff) (key other : WsKey) (state : WsState) (h : other ≠ key) :
    (b.insert key state).states other = b.states other := by
  simp [insert, h]

@[simp] theorem clear_self (b : WsBackoff) (key : WsKey) : (b.clear key).states key = none := by
  simp [clear]

theorem clear_of_ne (b : WsBackoff) (key other : WsKey) (h : other ≠ key) :
    (b.clear key).states other = b.states other := by
  simp [clear, h]

theorem retain_states (b : WsBackoff) (now : Instant) (key : WsKey) :
    (b.retain now).states key = (b.states key).filter (survives now) := rfl

/-- A probe writes its own key, and only where nothing survives. -/
theorem beginProbe_states (b : WsBackoff) (key other : WsKey) (now : Instant) :
    (b.beginProbe key now).2.states other =
      if other = key ∧ (b.retain now).states key = none then
        some (.probing (now + wsAttemptWindow))
      else (b.retain now).states other := by
  unfold beginProbe
  dsimp only
  cases hkept : (b.retain now).states key with
  | none =>
    by_cases hother : other = key
    · simp [hother]
    · simp [hother, insert_of_ne _ _ _ _ hother]
  | some state => cases state <;> simp

/-- The decision on a route in a given state. -/
def decisionOn (state : Option WsState) : WsDecision :=
  match state with
  | some (.probing _) => .probeInFlight
  | some (.cooldown _) => .cooldown
  | some .disabled404 => .disabled404
  | none => .probeNow

theorem beginProbe_decision (b : WsBackoff) (key : WsKey) (now : Instant) :
    (b.beginProbe key now).1 = decisionOn ((b.retain now).states key) := by
  unfold beginProbe
  dsimp only
  cases (b.retain now).states key with
  | none => rfl
  | some state => cases state <;> rfl

/-- What the purge leaves of a route in a given state. -/
theorem retain_of_some (b : WsBackoff) (key : WsKey) (now : Instant) (state : WsState)
    (h : b.states key = some state) :
    (b.retain now).states key = if survives now state then some state else none := by
  rw [retain_states, h, Option.filter_some]

theorem retain_of_none (b : WsBackoff) (key : WsKey) (now : Instant) (h : b.states key = none) :
    (b.retain now).states key = none := by
  rw [retain_states, h, Option.filter_none]

end WsBackoff

end TgWsProxy.Source.Routing
