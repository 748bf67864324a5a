import Mathlib.Data.List.Basic
import Mathlib.Algebra.BigOperators.Group.List.Basic
import Mathlib.Algebra.GroupWithZero.Nat

/-!
# Self-delimiting framings

A framing reads the size of the frame at the front of a stream from the front
of that stream alone (`Framing`). Cutting a stream greedily gives its frames
(`Framing.frames`), and a concatenation of complete frames is cut back into
exactly these frames (`frames_flatten_append`).

A reader that is handed an arbitrary window of such a stream, without being told
where in it a frame starts, is back in step from the first of its frames that
ends where a true frame ends (`ends_on_boundaries_iff`): one position decides
every later one.

Two framings may be read off one stream. Whether the frames of the second are the
pieces into which the first cuts the stream is decided frame by frame
(`frames_eq_pieces_of_some`, `frames_eq_pieces_of_none`).
-/

set_option autoImplicit false

namespace TgWsProxy.Library

variable {α β : Type*}

/-- Running totals, the empty sum left out. -/
def totals : List Nat → List Nat
  | [] => []
  | n :: ns => n :: (totals ns).map (n + ·)

@[simp] theorem totals_length (ns : List Nat) : (totals ns).length = ns.length := by
  induction ns with
  | nil => rfl
  | cons n ns ih => simp [totals, ih]

theorem mem_totals (ns : List Nat) (k : Nat) :
    k ∈ totals ns ↔ ∃ pre post, ns = pre ++ post ∧ pre ≠ [] ∧ pre.sum = k := by
  induction ns generalizing k with
  | nil =>
    simp only [totals, List.not_mem_nil, false_iff]
    intro hexists
    obtain ⟨pre, post, heq, hne, -⟩ := hexists
    exact hne (List.append_eq_nil_iff.mp heq.symm).1
  | cons n ns ih =>
    simp only [totals, List.mem_cons, List.mem_map]
    constructor
    · rintro (rfl | ⟨j, hj, rfl⟩)
      · exact ⟨[k], ns, rfl, by simp, by simp⟩
      · obtain ⟨pre, post, rfl, -, rfl⟩ := (ih j).mp hj
        exact ⟨n :: pre, post, rfl, by simp, by simp⟩
    · intro hexists
      obtain ⟨pre, post, heq, hne, rfl⟩ := hexists
      cases pre with
      | nil => exact absurd rfl hne
      | cons p pre =>
        obtain ⟨rfl, rfl⟩ := List.cons.inj heq
        by_cases hp : pre = []
        · left; simp [hp]
        · right; exact ⟨pre.sum, (ih _).mpr ⟨pre, post, rfl, hp, rfl⟩, by simp⟩

theorem le_sum_of_mem_totals (ns : List Nat) (k : Nat) (h : k ∈ totals ns) : k ≤ ns.sum := by
  obtain ⟨pre, post, rfl, -, rfl⟩ := (mem_totals ns k).mp h
  simp

/-- A stream position at which one of the concatenated blocks starts or the last one ends. -/
def IsBoundary (ms : List (List α)) (k : Nat) : Prop :=
  ∃ pre post, ms = pre ++ post ∧ pre.flatten.length = k

theorem isBoundary_zero (ms : List (List α)) : IsBoundary ms 0 := ⟨[], ms, rfl, rfl⟩

theorem isBoundary_end (ms : List (List α)) : IsBoundary ms ms.flatten.length :=
  ⟨ms, [], by simp, rfl⟩

/-- Behind a prefix of the blocks, the boundaries are those of the other blocks. -/
theorem isBoundary_append_iff (pre post : List (List α)) (k : Nat) :
    IsBoundary (pre ++ post) (pre.flatten.length + k) ↔ IsBoundary post k := by
  constructor
  · intro ⟨a, b, heq, hlen⟩
    rcases List.append_eq_append_iff.mp heq with ⟨c, rfl, rfl⟩ | ⟨c, rfl, rfl⟩
    · exact ⟨c, b, rfl, by simpa using hlen⟩
    · have hk : k = 0 := by
        simp only [List.flatten_append, List.length_append] at hlen
        omega
      exact hk ▸ isBoundary_zero post
  · intro hexists
    obtain ⟨a, b, rfl, rfl⟩ := hexists
    exact ⟨pre ++ a, b, by simp, by simp⟩

/-- Offsets strictly inside a sequence of parts at which two of them meet. -/
def cuts (parts : List (List α)) : List Nat := totals (parts.map List.length).dropLast

/-- A position at which two of the blocks meet. -/
def Between (ms : List (List α)) (k : Nat) : Prop :=
  ∃ pre post, ms = pre ++ post ∧ pre ≠ [] ∧ post ≠ [] ∧ pre.flatten.length = k

theorem between_iff_isBoundary (ms : List (List α)) (k : Nat) (hk : 0 < k)
    (hlt : k < ms.flatten.length) : Between ms k ↔ IsBoundary ms k := by
  constructor
  · intro hexists
    obtain ⟨pre, post, heq, -, -, hlen⟩ := hexists
    exact ⟨pre, post, heq, hlen⟩
  · intro hexists
    obtain ⟨pre, post, rfl, hlen⟩ := hexists
    refine ⟨pre, post, rfl, ?_, ?_, hlen⟩
    · rintro rfl
      simp only [List.flatten_nil, List.length_nil] at hlen
      omega
    · rintro rfl
      simp only [List.append_nil] at hlt
      omega

theorem not_between_singleton (m : List α) (k : Nat) : ¬ Between [m] k := by
  intro hexists
  obtain ⟨pre, post, heq, hpre, hpost, -⟩ := hexists
  have hlen := congrArg List.length heq
  have h1 := List.length_pos_of_ne_nil hpre
  have h2 := List.length_pos_of_ne_nil hpost
  simp only [List.length_singleton, List.length_append] at hlen
  omega

/-- The meeting positions of the blocks are their cuts, so that they can be computed. -/
theorem between_iff_mem_cuts (ms : List (List α)) (k : Nat) : Between ms k ↔ k ∈ cuts ms := by
  induction ms generalizing k with
  | nil =>
    simp only [cuts, List.map_nil, List.dropLast_nil, totals, List.not_mem_nil, iff_false]
    intro hexists
    obtain ⟨pre, post, heq, hpre, -, -⟩ := hexists
    exact hpre (List.append_eq_nil_iff.mp heq.symm).1
  | cons m ms ih =>
    by_cases hms : ms = []
    · subst hms
      simp [cuts, totals, not_between_singleton]
    · have hmap : ms.map List.length ≠ [] := by simpa using hms
      simp only [cuts] at ih
      simp only [cuts, List.map_cons, List.dropLast_cons_of_ne_nil hmap, totals, List.mem_cons,
        List.mem_map]
      constructor
      · intro hexists
        obtain ⟨pre, post, heq, hpre, hpost, rfl⟩ := hexists
        obtain ⟨p, pre, rfl⟩ := List.exists_cons_of_ne_nil hpre
        rw [List.cons_append, List.cons.injEq] at heq
        obtain ⟨rfl, rfl⟩ := heq
        by_cases hnil : pre = []
        · left; simp [hnil]
        · right
          exact ⟨pre.flatten.length, (ih _).mp ⟨pre, post, rfl, hnil, hpost, rfl⟩, by simp⟩
      · rintro (rfl | ⟨j, hj, rfl⟩)
        · exact ⟨[m], ms, rfl, by simp, hms, by simp⟩
        · obtain ⟨pre, post, rfl, -, hpost, rfl⟩ := (ih j).mpr hj
          exact ⟨m :: pre, post, rfl, by simp, hpost, by simp⟩

/-- Cut a list into pieces of the given lengths, what is left over being a last piece. -/
def pieces : List Nat → List α → List (List α)
  | [], xs => if xs.isEmpty then [] else [xs]
  | n :: ns, xs => xs.take n :: pieces ns (xs.drop n)

@[simp] theorem pieces_flatten (ns : List Nat) (xs : List α) : (pieces ns xs).flatten = xs := by
  induction ns generalizing xs with
  | nil => cases xs <;> simp [pieces]
  | cons n ns ih => simp [pieces, ih]

theorem pieces_ne_nil (ns : List Nat) (xs : List α) (hpos : ∀ n ∈ ns, 0 < n)
    (hsum : ns.sum ≤ xs.length) : ∀ p ∈ pieces ns xs, p ≠ [] := by
  induction ns generalizing xs with
  | nil => cases xs <;> simp [pieces]
  | cons n ns ih =>
    have hn := hpos n List.mem_cons_self
    simp only [List.sum_cons] at hsum
    intro p hp
    simp only [pieces, List.mem_cons] at hp
    rcases hp with rfl | hp
    · intro h
      have := congrArg List.length h
      simp only [List.length_take, List.length_nil] at this
      omega
    · refine ih (xs.drop n) (fun m hm => hpos m (List.mem_cons_of_mem n hm)) ?_ p hp
      simp only [List.length_drop]
      omega

/-- The lengths of the pieces depend on the length of the list alone. -/
theorem pieces_lengths (ns : List Nat) (xs : List α) (ys : List β) (h : xs.length = ys.length) :
    (pieces ns xs).map List.length = (pieces ns ys).map List.length := by
  induction ns generalizing xs ys with
  | nil => cases xs <;> cases ys <;> simp_all [pieces]
  | cons n ns ih => simp [pieces, h, ih (xs.drop n) (ys.drop n) (by simp [h])]

theorem length_le_pieces (ns : List Nat) (xs : List α) : ns.length ≤ (pieces ns xs).length := by
  induction ns generalizing xs with
  | nil => exact Nat.zero_le _
  | cons n ns ih =>
    rw [pieces, List.length_cons, List.length_cons]
    exact Nat.succ_le_succ (ih _)

/-- The pieces meet at the running totals of the lengths, the end of the list left out. -/
theorem mem_cuts_pieces (ns : List Nat) (xs : List α) (hpos : ∀ n ∈ ns, 0 < n)
    (hsum : ns.sum ≤ xs.length) (k : Nat) :
    k ∈ cuts (pieces ns xs) ↔ k ∈ totals ns ∧ k < xs.length := by
  induction ns generalizing xs k with
  | nil => cases xs <;> simp [pieces, cuts, totals]
  | cons n ns ih =>
    have hn := hpos n List.mem_cons_self
    simp only [List.sum_cons] at hsum
    have hrest := ih (xs.drop n) (fun m hm => hpos m (List.mem_cons_of_mem n hm))
      (by simp only [List.length_drop]; omega)
    have hlen : min n xs.length = n := by omega
    by_cases hnil : pieces ns (xs.drop n) = []
    · have hxs : (xs.drop n).length = 0 := by
        have := congrArg List.flatten hnil
        simpa using congrArg List.length this
      have hns : totals ns = [] := by
        cases ns with
        | nil => rfl
        | cons m ns => simp [pieces] at hnil
      simp only [List.length_drop] at hxs
      simp only [cuts, pieces, hnil, List.map_cons, List.map_nil, List.dropLast_singleton, totals, hns,
        List.not_mem_nil, List.mem_singleton, false_iff]
      omega
    · have hmap : (pieces ns (xs.drop n)).map List.length ≠ [] := by simpa using hnil
      simp only [cuts, pieces, List.map_cons, List.dropLast_cons_of_ne_nil hmap, totals,
        List.length_take, hlen, List.mem_cons, List.mem_map]
      constructor
      · rintro (rfl | ⟨j, hj, rfl⟩)
        · refine ⟨Or.inl rfl, ?_⟩
          by_contra hge
          have hd : xs.drop k = [] := List.drop_eq_nil_of_le (by omega)
          have hsum0 : ns = [] := by
            cases ns with
            | nil => rfl
            | cons m ns =>
              have := hpos m (by simp)
              simp only [List.sum_cons] at hsum
              omega
          exact hnil (by simp [hd, hsum0, pieces])
        · obtain ⟨hj, hlt⟩ := (hrest j).mp hj
          simp only [List.length_drop] at hlt
          exact ⟨Or.inr ⟨j, hj, rfl⟩, by omega⟩
      · rintro ⟨rfl | ⟨j, hj, rfl⟩, hlt⟩
        · exact Or.inl rfl
        · refine Or.inr ⟨j, (hrest j).mpr ⟨hj, ?_⟩, rfl⟩
          simp only [List.length_drop]
          omega

/-- A framing: the size of the frame at the front of a stream, when all of it is there. -/
structure Framing (α : Type*) where
  size : List α → Option Nat
  size_pos : ∀ {xs n}, size xs = some n → 0 < n
  size_le : ∀ {xs n}, size xs = some n → n ≤ xs.length
  size_append : ∀ {xs n} (ys), size xs = some n → size (xs ++ ys) = some n

namespace Framing

variable (F : Framing α)

/-- One complete frame and nothing else. -/
def Complete (m : List α) : Prop := F.size m = some m.length

instance (m : List α) : Decidable (F.Complete m) :=
  inferInstanceAs (Decidable (F.size m = some m.length))

def framesWithin : Nat → List α → List (List α)
  | 0, _ => []
  | fuel + 1, xs =>
    match F.size xs with
    | none => []
    | some n => xs.take n :: framesWithin fuel (xs.drop n)

/-- The complete frames at the front of a stream, cut off one by one. -/
def frames (xs : List α) : List (List α) := F.framesWithin xs.length xs

theorem size_nil : F.size [] = none := by
  cases h : F.size [] with
  | none => rfl
  | some n =>
    have h0 := F.size_pos h
    have hle := F.size_le h
    simp only [List.length_nil] at hle
    omega

/-- The fuel is never short: it counts octets, and every frame has one. -/
theorem framesWithin_eq (fuel fuel' : Nat) (xs : List α) (h : xs.length ≤ fuel)
    (h' : xs.length ≤ fuel') : F.framesWithin fuel xs = F.framesWithin fuel' xs := by
  induction fuel generalizing fuel' xs with
  | zero =>
    have hxs : xs = [] := List.length_eq_zero_iff.mp (by omega)
    subst hxs
    cases fuel' <;> simp [framesWithin, F.size_nil]
  | succ fuel ih =>
    cases fuel' with
    | zero =>
      have hxs : xs = [] := List.length_eq_zero_iff.mp (by omega)
      subst hxs
      simp [framesWithin, F.size_nil]
    | succ fuel' =>
      simp only [framesWithin]
      cases hs : F.size xs with
      | none => rfl
      | some n =>
        have hn := F.size_pos hs
        have hle := F.size_le hs
        have hd : (xs.drop n).length + 1 ≤ xs.length := by
          simp only [List.length_drop]
          omega
        simp only [ih fuel' (xs.drop n) (by omega) (by omega)]

theorem frames_eq (xs : List α) :
    F.frames xs = match F.size xs with
      | none => []
      | some n => xs.take n :: F.frames (xs.drop n) := by
  rw [frames, F.framesWithin_eq xs.length (xs.length + 1) xs (by omega) (by omega), framesWithin]
  cases hs : F.size xs with
  | none => rfl
  | some n => simp only [frames, F.framesWithin_eq xs.length _ (xs.drop n) (by simp) (Nat.le_refl _)]

theorem frames_of_none (xs : List α) (h : F.size xs = none) : F.frames xs = [] := by
  rw [frames_eq, h]

theorem frames_of_some (xs : List α) (n : Nat) (h : F.size xs = some n) :
    F.frames xs = xs.take n :: F.frames (xs.drop n) := by
  rw [frames_eq, h]

/-- Induction along the frames of a stream. -/
theorem frames_induction {motive : List α → Prop}
    (stop : ∀ xs, F.size xs = none → motive xs)
    (frame : ∀ xs n, F.size xs = some n → motive (xs.drop n) → motive xs)
    (xs : List α) : motive xs := by
  induction hl : xs.length using Nat.strongRecOn generalizing xs with
  | ind len ih =>
    cases hs : F.size xs with
    | none => exact stop xs hs
    | some n =>
      have h0 := F.size_pos hs
      have hle := F.size_le hs
      exact frame xs n hs (ih (xs.drop n).length (by simp only [List.length_drop]; omega) _ rfl)

theorem frames_flatten_prefix (xs : List α) : (F.frames xs).flatten <+: xs := by
  induction xs using F.frames_induction with
  | stop xs hs => simp [F.frames_of_none xs hs]
  | frame xs n hs ih =>
    rw [F.frames_of_some xs n hs, List.flatten_cons]
    obtain ⟨tail, htail⟩ := ih
    exact ⟨tail, by rw [List.append_assoc, htail, List.take_append_drop]⟩

theorem frames_ne_nil (xs : List α) : ∀ f ∈ F.frames xs, f ≠ [] := by
  induction xs using F.frames_induction with
  | stop xs hs => simp [F.frames_of_none xs hs]
  | frame xs n hs ih =>
    rw [F.frames_of_some xs n hs]
    intro f hf
    rcases List.mem_cons.mp hf with rfl | hf
    · intro h
      have h0 := F.size_pos hs
      have hle := F.size_le hs
      have := congrArg List.length h
      simp only [List.length_take, List.length_nil] at this
      omega
    · exact ih f hf

theorem size_complete_append (m xs : List α) (h : F.Complete m) :
    F.size (m ++ xs) = some m.length := F.size_append xs h

theorem frames_complete_append (m xs : List α) (h : F.Complete m) :
    F.frames (m ++ xs) = m :: F.frames xs := by
  rw [F.frames_of_some _ _ (F.size_complete_append m xs h)]
  simp

/-- What is only a part of a frame has no frame at its front. -/
theorem frames_of_proper_prefix (m t : List α) (h : F.Complete m) (part : t <+: m) (proper : t ≠ m) :
    F.frames t = [] := by
  apply F.frames_of_none
  cases hs : F.size t with
  | none => rfl
  | some n =>
    obtain ⟨rest, rfl⟩ := part
    have hn : n = (t ++ rest).length := Option.some.inj ((F.size_append rest hs).symm.trans h)
    have hle := F.size_le hs
    have hrest : rest = [] := by
      rw [List.length_append] at hn
      exact List.length_eq_zero_iff.mp (by omega)
    exact absurd (by rw [hrest, List.append_nil]) proper

/-- The end of the first frame is the first position met. -/
theorem size_mem_totals (xs : List α) (n : Nat) (h : F.size xs = some n) :
    n ∈ totals ((F.frames xs).map List.length) := by
  rw [F.frames_of_some xs n h, List.map_cons, List.length_take, Nat.min_eq_left (F.size_le h)]
  exact List.mem_cons_self

theorem pos_of_mem_totals (xs : List α) (k : Nat)
    (h : k ∈ totals ((F.frames xs).map List.length)) : 0 < k := by
  obtain ⟨pre, post, heq, hne, rfl⟩ := (mem_totals _ k).mp h
  obtain ⟨n, ns, rfl⟩ := List.exists_cons_of_ne_nil hne
  obtain ⟨f, hf, hfn⟩ := List.mem_map.mp (heq ▸ List.mem_append_left post List.mem_cons_self)
  have hpos := List.length_pos_of_ne_nil (F.frames_ne_nil xs f hf)
  simp only [List.sum_cons]
  omega

/-- A concatenation of complete frames is cut back into these frames. -/
theorem frames_flatten_append (ms : List (List α)) (xs : List α) (h : ∀ m ∈ ms, F.Complete m) :
    F.frames (ms.flatten ++ xs) = ms ++ F.frames xs := by
  induction ms with
  | nil => rfl
  | cons m ms ih =>
    rw [List.flatten_cons, List.append_assoc,
      F.frames_complete_append m _ (h m List.mem_cons_self),
      ih (fun k hk => h k (List.mem_cons_of_mem m hk))]
    rfl

/-- Two complete frames, one after the other, at the front of a window. -/
def BeginsWithTwo (w : List α) : Prop :=
  ∃ a b, F.size w = some a ∧ F.size (w.drop a) = some b

theorem two_le_frames_iff (w : List α) : 2 ≤ (F.frames w).length ↔ F.BeginsWithTwo w := by
  constructor
  · intro h
    cases ha : F.size w with
    | none => simp [F.frames_of_none w ha] at h
    | some a =>
      cases hb : F.size (w.drop a) with
      | none => simp [F.frames_of_some w a ha, F.frames_of_none _ hb] at h
      | some b => exact ⟨a, b, ha, hb⟩
  · intro ⟨a, b, ha, hb⟩
    simp [F.frames_of_some w a ha, F.frames_of_some _ b hb]

/-! ### Two framings of one stream -/

/-- Parts of the same lengths are the same parts: both are cut from one stream. -/
theorem frames_lengths_eq_iff (G : Framing α) (ns : List Nat) (xs : List α) :
    (G.frames xs).map List.length = (pieces ns xs).map List.length ↔ G.frames xs = pieces ns xs := by
  constructor
  · intro hlen
    have htotal : (G.frames xs).flatten.length = xs.length := by
      rw [List.length_flatten, hlen, ← List.length_flatten, pieces_flatten]
    have hflat : (G.frames xs).flatten = xs := (G.frames_flatten_prefix xs).eq_of_length htotal
    exact List.eq_iff_flatten_eq.mpr ⟨by rw [hflat, pieces_flatten], hlen⟩
  · exact congrArg _

theorem frames_eq_pieces_of_none (G : Framing α) (xs : List α) (h : F.size xs = none) :
    G.frames xs = pieces ((F.frames xs).map List.length) xs ↔
      xs = [] ∨ G.size xs = some xs.length := by
  rw [F.frames_of_none xs h, List.map_nil, pieces]
  cases hg : G.size xs with
  | none =>
    rw [G.frames_of_none xs hg]
    cases xs <;> simp
  | some n =>
    have hpos := G.size_pos hg
    have hle := G.size_le hg
    have hne : xs.isEmpty = false := by
      cases xs with
      | nil => simp [G.size_nil] at hg
      | cons x xs => rfl
    rw [G.frames_of_some xs n hg]
    simp only [hne, Bool.false_eq_true, if_false, List.cons.injEq, List.take_eq_self_iff,
      List.isEmpty_eq_false_iff.mp hne, Option.some.injEq, false_or]
    constructor
    · intro hparts
      omega
    · intro hn
      refine ⟨by omega, ?_⟩
      rw [hn, List.drop_length, G.frames_of_none [] G.size_nil]

theorem frames_eq_pieces_of_some (G : Framing α) (xs : List α) (n : Nat) (h : F.size xs = some n) :
    G.frames xs = pieces ((F.frames xs).map List.length) xs ↔
      G.size xs = some n ∧
        G.frames (xs.drop n) = pieces ((F.frames (xs.drop n)).map List.length) (xs.drop n) := by
  have hle := F.size_le h
  rw [F.frames_of_some xs n h, List.map_cons, List.length_take, Nat.min_eq_left hle, pieces]
  cases hg : G.size xs with
  | none => simp [G.frames_of_none xs hg]
  | some k =>
    have hgle := G.size_le hg
    rw [G.frames_of_some xs k hg, List.cons.injEq, Option.some.injEq]
    constructor
    · rintro ⟨htake, hrest⟩
      have hk : k = n := by
        have := congrArg List.length htake
        simp only [List.length_take] at this
        omega
      subst hk
      exact ⟨rfl, hrest⟩
    · rintro ⟨rfl, hrest⟩
      exact ⟨rfl, hrest⟩

/-- In front of complete frames of `F`, which `G` tells by their own octets, the two agree
exactly when each of these is a frame of `G` and they agree on the rest. -/
theorem frames_eq_pieces_flatten_append (G : Framing α) (ms : List (List α)) (xs : List α)
    (h : ∀ m ∈ ms, F.Complete m)
    (own : ∀ m ∈ ms, ∀ ys, G.size (m ++ ys) = some m.length ↔ G.Complete m) :
    G.frames (ms.flatten ++ xs) =
        pieces ((F.frames (ms.flatten ++ xs)).map List.length) (ms.flatten ++ xs) ↔
      (∀ m ∈ ms, G.Complete m) ∧ G.frames xs = pieces ((F.frames xs).map List.length) xs := by
  induction ms with
  | nil => simp
  | cons m ms ih =>
    have hm := h m List.mem_cons_self
    have hrest := ih (fun k hk => h k (List.mem_cons_of_mem m hk))
      (fun k hk => own k (List.mem_cons_of_mem m hk))
    rw [List.flatten_cons, List.append_assoc,
      F.frames_eq_pieces_of_some G _ m.length (F.size_complete_append m _ hm),
      own m List.mem_cons_self, List.drop_left, hrest, List.forall_mem_cons, and_assoc]

/-! ### Windows of a stream -/

variable {F} {ms : List (List α)} (complete : ∀ m ∈ ms, F.Complete m)
include complete

/-- Reading from a boundary of the stream, every further frame ends on a boundary. -/
theorem totals_frames_of_isBoundary (w : List α) (o : Nat) (ho : IsBoundary ms o)
    (hw : w <+: ms.flatten.drop o) :
    ∀ e ∈ totals ((F.frames w).map List.length), IsBoundary ms (o + e) := by
  induction w using F.frames_induction generalizing o with
  | stop w hs => simp [F.frames_of_none w hs, totals]
  | frame w n hs ih =>
    obtain ⟨pre, post, hms, rfl⟩ := ho
    obtain ⟨tail, htail⟩ := hw
    have hdrop : ms.flatten.drop pre.flatten.length = post.flatten := by simp [hms]
    have hsize : F.size post.flatten = some n := by
      rw [← hdrop, ← htail]
      exact F.size_append tail hs
    obtain ⟨m, post', rfl⟩ : ∃ m post', post = m :: post' := by
      cases post with
      | nil => simp [F.size_nil] at hsize
      | cons m post' => exact ⟨m, post', rfl⟩
    have hm : n = m.length := by
      have hc := F.size_complete_append m post'.flatten (complete m (by simp [hms]))
      rw [List.flatten_cons, hc] at hsize
      exact (Option.some.inj hsize).symm
    have hnext : IsBoundary ms (pre.flatten.length + n) :=
      ⟨pre ++ [m], post', by simp [hms], by simp [hm]⟩
    have hle := F.size_le hs
    have hwin : w.drop n <+: ms.flatten.drop (pre.flatten.length + n) := by
      refine ⟨tail, ?_⟩
      rw [← List.drop_append_of_le_length hle, htail, List.drop_drop]
    intro e he
    rw [F.frames_of_some w n hs] at he
    simp only [List.map_cons, List.length_take, Nat.min_eq_left hle, totals, List.mem_cons,
      List.mem_map] at he
    rcases he with rfl | ⟨j, hj, rfl⟩
    · exact hnext
    · rw [← Nat.add_assoc]
      exact ih _ hnext hwin j hj

/-- The first frame read from an arbitrary window decides whether all of them
end on boundaries of the stream. -/
theorem ends_on_boundaries_iff (w : List α) (o a : Nat) (hw : w <+: ms.flatten.drop o)
    (ha : F.size w = some a) :
    (∀ e ∈ totals ((F.frames w).map List.length), IsBoundary ms (o + e)) ↔
      IsBoundary ms (o + a) := by
  have hle := F.size_le ha
  have hframes : (F.frames w).map List.length = a :: (F.frames (w.drop a)).map List.length := by
    rw [F.frames_of_some w a ha]
    simp [Nat.min_eq_left hle]
  constructor
  · intro h
    exact h a (F.size_mem_totals w a ha)
  · intro hbound e he
    rw [hframes] at he
    simp only [totals, List.mem_cons, List.mem_map] at he
    rcases he with rfl | ⟨j, hj, rfl⟩
    · exact hbound
    · obtain ⟨tail, htail⟩ := hw
      rw [← Nat.add_assoc]
      refine totals_frames_of_isBoundary complete (w.drop a) (o + a) hbound ⟨tail, ?_⟩ j hj
      rw [← List.drop_append_of_le_length hle, htail, List.drop_drop]

end Framing

end TgWsProxy.Library
