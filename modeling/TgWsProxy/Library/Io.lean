import TgWsProxy.Library.Bytes

/-!
# Programs over a byte stream

One end of a connection is what can still be read from it, after which the peer
has closed, and what has been written to it so far (`Duplex`). A program reads
and writes and either returns a value or stops with an error; an error keeps
what was read and written before it (`Io`).

A program's successful runs are taken apart at its binds (`bind_ok_iff`), and a
run on known octets is computed forward (`bind_of_ok`, `readExact_append`).
-/

set_option autoImplicit false

namespace TgWsProxy.Library

structure Duplex where
  input : Bytes
  output : Bytes
  deriving DecidableEq, Repr

inductive IoError where
  | unexpectedEof | other
  deriving DecidableEq, Repr

structure Io (ε α : Type) where
  run : Duplex → Except ε α × Duplex

namespace Io

variable {ε ε' α β : Type}

instance : Monad (Io ε) where
  pure a := ⟨fun s => (.ok a, s)⟩
  bind p f := ⟨fun s =>
    match p.run s with
    | (.ok a, t) => (f a).run t
    | (.error e, t) => (.error e, t)⟩

def fail (e : ε) : Io ε α := ⟨fun s => (.error e, s)⟩

/-- Fill a buffer of `n` octets, or fail having used up the stream. -/
def readExact (eof : ε) (n : Nat) : Io ε Bytes := ⟨fun s =>
  if n ≤ s.input.length then (.ok (s.input.take n), { s with input := s.input.drop n })
  else (.error eof, { s with input := [] })⟩

def writeAll (bs : Bytes) : Io ε Unit := ⟨fun s => (.ok (), { s with output := s.output ++ bs })⟩

/-- One octet, or none at the end of the stream. -/
def readOctet : Io ε (Option UInt8) := ⟨fun s =>
  match s.input with
  | [] => (.ok none, s)
  | b :: rest => (.ok (some b), { s with input := rest })⟩

def ofExcept (result : Except ε α) : Io ε α := ⟨fun s => (result, s)⟩

/-- Run `p` and hand its error over as a value. -/
def attempt (p : Io ε' α) : Io ε (Except ε' α) := ⟨fun s => (.ok (p.run s).1, (p.run s).2)⟩

@[simp] theorem pure_run (a : α) (s : Duplex) : (pure a : Io ε α).run s = (.ok a, s) := rfl

@[simp] theorem fail_run (e : ε) (s : Duplex) : (fail e : Io ε α).run s = (.error e, s) := rfl

@[simp] theorem writeAll_run (bs : Bytes) (s : Duplex) :
    (writeAll bs : Io ε Unit).run s = (.ok (), ⟨s.input, s.output ++ bs⟩) := rfl

@[simp] theorem attempt_run (p : Io ε' α) (s : Duplex) :
    (attempt p : Io ε (Except ε' α)).run s = (.ok (p.run s).1, (p.run s).2) := rfl

@[simp] theorem ofExcept_run (result : Except ε α) (s : Duplex) :
    (ofExcept result).run s = (result, s) := rfl

@[simp] theorem readOctet_cons (b : UInt8) (rest out : Bytes) :
    (readOctet : Io ε (Option UInt8)).run ⟨b :: rest, out⟩ = (.ok (some b), ⟨rest, out⟩) := rfl

theorem bind_run (p : Io ε α) (f : α → Io ε β) (s : Duplex) :
    (p >>= f).run s = match p.run s with
      | (.ok a, t) => (f a).run t
      | (.error e, t) => (.error e, t) := rfl

theorem bind_of_ok {p : Io ε α} {f : α → Io ε β} {s t : Duplex} {a : α}
    (h : p.run s = (.ok a, t)) : (p >>= f).run s = (f a).run t := by
  rw [bind_run, h]

theorem bind_of_error {p : Io ε α} {f : α → Io ε β} {s t : Duplex} {e : ε}
    (h : p.run s = (.error e, t)) : (p >>= f).run s = (.error e, t) := by
  rw [bind_run, h]

/-- A sequence succeeds through a success of its first program. -/
theorem bind_ok_iff {p : Io ε α} {f : α → Io ε β} {s t : Duplex} {b : β} :
    (p >>= f).run s = (.ok b, t) ↔ ∃ a r, p.run s = (.ok a, r) ∧ (f a).run r = (.ok b, t) := by
  cases hp : p.run s with
  | mk res r =>
    cases res with
    | ok a =>
      rw [bind_of_ok hp]
      constructor
      · exact fun h => ⟨a, r, rfl, h⟩
      · intro ⟨a', r', heq, h⟩
        obtain ⟨ha, rfl⟩ := Prod.mk.inj heq
        exact Except.ok.inj ha ▸ h
    | error e =>
      rw [bind_of_error hp]
      constructor
      · intro h
        cases (Prod.mk.inj h).1
      · intro hexists
        obtain ⟨a', r', heq, -⟩ := hexists
        cases (Prod.mk.inj heq).1

/-- A sequence fails in its first program or in its second. -/
theorem bind_error_iff {p : Io ε α} {f : α → Io ε β} {s t : Duplex} {e : ε} :
    (p >>= f).run s = (.error e, t) ↔
      p.run s = (.error e, t) ∨ ∃ a r, p.run s = (.ok a, r) ∧ (f a).run r = (.error e, t) := by
  cases hp : p.run s with
  | mk res r =>
    cases res with
    | ok a =>
      rw [bind_of_ok hp]
      constructor
      · exact fun h => .inr ⟨a, r, rfl, h⟩
      · rintro (heq | ⟨a', r', heq, h⟩)
        · cases (Prod.mk.inj heq).1
        · obtain ⟨ha, rfl⟩ := Prod.mk.inj heq
          exact Except.ok.inj ha ▸ h
    | error e' =>
      rw [bind_of_error hp]
      constructor
      · intro h
        obtain ⟨he, rfl⟩ := Prod.mk.inj h
        exact .inl (by rw [Except.error.inj he])
      · rintro (heq | ⟨a, r', heq, -⟩)
        · obtain ⟨he, rfl⟩ := Prod.mk.inj heq
          rw [Except.error.inj he]
        · cases (Prod.mk.inj heq).1

theorem pure_error_iff {a : α} {e : ε} {s t : Duplex} :
    (pure a : Io ε α).run s = (.error e, t) ↔ False := by
  simp

theorem fail_error_iff {e e' : ε} {s t : Duplex} :
    (fail e : Io ε α).run s = (.error e', t) ↔ e = e' ∧ s = t := by
  rw [fail_run, Prod.mk.injEq, Except.error.injEq]

theorem writeAll_error_iff {bs : Bytes} {e : ε} {s t : Duplex} :
    (writeAll bs : Io ε Unit).run s = (.error e, t) ↔ False := by
  simp

theorem pure_ok_iff {a b : α} {s t : Duplex} :
    (pure a : Io ε α).run s = (.ok b, t) ↔ a = b ∧ s = t := by
  rw [pure_run, Prod.mk.injEq, Except.ok.injEq]

theorem fail_ok_iff {e : ε} {b : α} {s t : Duplex} :
    (fail e : Io ε α).run s = (.ok b, t) ↔ False := by
  simp

theorem writeAll_ok_iff {bs : Bytes} {u : Unit} {s t : Duplex} :
    (writeAll bs : Io ε Unit).run s = (.ok u, t) ↔ t = ⟨s.input, s.output ++ bs⟩ := by
  rw [writeAll_run]
  constructor
  · exact fun h => (Prod.mk.inj h).2.symm
  · rintro rfl
    rfl

theorem readExact_ok_iff {eof : ε} {n : Nat} {bs : Bytes} {s t : Duplex} :
    (readExact eof n).run s = (.ok bs, t) ↔
      s.input = bs ++ t.input ∧ bs.length = n ∧ t.output = s.output := by
  simp only [readExact]
  by_cases h : n ≤ s.input.length
  · rw [if_pos h]
    constructor
    · intro heq
      obtain ⟨hb, rfl⟩ := Prod.mk.inj heq
      obtain rfl := Except.ok.inj hb
      exact ⟨(List.take_append_drop n s.input).symm, by simp [h], rfl⟩
    · intro hexists
      obtain ⟨hin, rfl, hout⟩ := hexists
      rw [hin, List.take_left, List.drop_left, ← hout]
  · rw [if_neg h]
    constructor
    · intro heq
      cases (Prod.mk.inj heq).1
    · intro hexists
      obtain ⟨hin, rfl, -⟩ := hexists
      rw [hin] at h
      simp at h

/-- A program that neither reads nor writes the output. -/
def Silent (p : Io ε α) : Prop :=
  ∀ input out out', p.run ⟨input, out'⟩ =
    ((p.run ⟨input, out⟩).1, ⟨(p.run ⟨input, out⟩).2.input, out'⟩)

theorem silent_pure (a : α) : Silent (pure a : Io ε α) := fun _ _ _ => rfl

theorem silent_fail (e : ε) : Silent (fail e : Io ε α) := fun _ _ _ => rfl

theorem silent_readExact (eof : ε) (n : Nat) : Silent (readExact eof n) := by
  intro input out out'
  unfold readExact
  dsimp only
  split <;> rfl

theorem silent_attempt {p : Io ε' α} (hp : Silent p) : Silent (attempt p : Io ε (Except ε' α)) := by
  intro input out out'
  rw [attempt_run, attempt_run, hp input out out']

theorem silent_bind {p : Io ε α} {f : α → Io ε β} (hp : Silent p) (hf : ∀ a, Silent (f a)) :
    Silent (p >>= f) := by
  intro input out out'
  have hfirst := hp input out out'
  cases hrun : p.run ⟨input, out⟩ with
  | mk result t =>
    rw [hrun] at hfirst
    cases result with
    | error e => rw [bind_of_error hfirst, bind_of_error hrun]
    | ok a =>
      rw [bind_of_ok hfirst, bind_of_ok hrun]
      exact hf a t.input t.output out'

theorem readExact_append (eof : ε) (bs rest out : Bytes) (n : Nat) (h : bs.length = n) :
    (readExact eof n).run ⟨bs ++ rest, out⟩ = (.ok bs, ⟨rest, out⟩) :=
  readExact_ok_iff.mpr ⟨rfl, h, rfl⟩

theorem readExact_short (eof : ε) (n : Nat) (input out : Bytes) (short : input.length < n) :
    (readExact eof n).run ⟨input, out⟩ = (.error eof, ⟨[], out⟩) := by
  simp only [readExact]
  rw [if_neg (by omega)]

theorem readExact_error_iff {eof e : ε} {n : Nat} {s t : Duplex} :
    (readExact eof n).run s = (.error e, t) ↔ e = eof ∧ s.input.length < n ∧ t = ⟨[], s.output⟩ := by
  by_cases h : s.input.length < n
  · rw [readExact_short eof n s.input s.output h, Prod.mk.injEq, Except.error.injEq]
    simp [h, eq_comm]
  · have hok : (readExact eof n).run s = (.ok (s.input.take n), ⟨s.input.drop n, s.output⟩) := by
      simp only [readExact]
      rw [if_pos (Nat.not_lt.mp h)]
    simp [hok, h]

/-- Repeat a program that returns `none` at the end of its stream; each item
comes with the octets its run used up. -/
def readAll (p : Io ε (Option α)) : Nat → Duplex → Except ε (List (α × Nat))
  | 0, _ => .ok []
  | fuel + 1, s =>
    match p.run s with
    | (.error e, _) => .error e
    | (.ok none, _) => .ok []
    | (.ok (some a), t) => do
      let rest ← readAll p fuel t
      return (a, s.input.length - t.input.length) :: rest

/-- There are no more items than octets of their encodings, if none of these is empty. -/
theorem length_le_flatMap (encode : β → Bytes) (items : List β)
    (nonempty : ∀ b, 0 < (encode b).length) : items.length ≤ (items.flatMap encode).length := by
  induction items with
  | nil => exact Nat.zero_le _
  | cons b items ih =>
    have hb := nonempty b
    simp only [List.flatMap_cons, List.length_append, List.length_cons]
    omega

/-- A program that inverts an encoding item by item inverts its concatenations,
each run using up its own item's octets. -/
theorem readAll_flatMap (p : Io ε (Option α)) (encode : β → Bytes) (value : β → α) (out : Bytes)
    (items : List β)
    (item : ∀ b ∈ items, ∀ rest, p.run ⟨encode b ++ rest, out⟩ = (.ok (some (value b)), ⟨rest, out⟩))
    (stop : p.run ⟨[], out⟩ = (.ok none, ⟨[], out⟩)) (fuel : Nat) (enough : items.length < fuel) :
    readAll p fuel ⟨items.flatMap encode, out⟩ =
      .ok (items.map fun b => (value b, (encode b).length)) := by
  induction items generalizing fuel with
  | nil =>
    obtain ⟨fuel, rfl⟩ : ∃ k, fuel = k + 1 := ⟨fuel - 1, by simp at enough; omega⟩
    simp [readAll, stop]
  | cons b items ih =>
    obtain ⟨fuel, rfl⟩ : ∃ k, fuel = k + 1 := ⟨fuel - 1, by omega⟩
    rw [List.flatMap_cons, readAll, item b List.mem_cons_self]
    dsimp only
    rw [ih (fun c hc => item c (List.mem_cons_of_mem b hc)) fuel (by simpa using enough)]
    simp [bind, Except.bind, pure, Except.pure]

end Io

end TgWsProxy.Library
