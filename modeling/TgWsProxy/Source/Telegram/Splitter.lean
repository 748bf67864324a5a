import TgWsProxy.Library.Framing
import TgWsProxy.Source.Telegram.Init

/-!
# Message splitter

`modules/telegram/splitter.rs`. The `while` loop of `split` is `scanBoundaries`,
its body `scanMessage`; every index and slice of the source is a checked read,
so a result `.ok` says that none of them left its array. The splitter keeps the
cipher between calls and nothing else.

`abridged` states the header the loop decodes as a framing of octet streams;
`split_eq` gives the result of a call in its terms, and that no read fails.
`split_plain_mtproto_messages` decodes a header of its own, `plainFraming`, and
`splitPlainMtprotoMessages_eq` says the same of it.
-/

set_option autoImplicit false

namespace TgWsProxy.Source.Telegram
open Library

structure MtProtoMessageSplitter where
  cipher : Aes256Ctr
  deriving DecidableEq, Repr

namespace MtProtoMessageSplitter

variable (aes : Aes256)

def new (initData : Bytes) : Option MtProtoMessageSplitter :=
  if initData.length < 64 then none
  else do
    let cipher ← Aes256Ctr.newFromSlices (initData.extract 8 40) (initData.extract 40 56)
    return ⟨(cipher.applyKeystream aes (List.replicate 64 0)).2⟩

/-- The length test that closes a pass of the loop; `none` is its `break`. -/
def endOfMessage (plain : Bytes) (pos msgLen : Nat) : Option Nat :=
  if msgLen = 0 ∨ pos + msgLen > plain.length then none else some (pos + msgLen)

/-- One pass of the loop at `pos`: the position after the message there. -/
def scanMessage (plain : Bytes) (pos : Nat) : Checked (Option Nat) := do
  let first ← index plain pos
  if first = 0x7f then
    if pos + 4 > plain.length then return none
    else
      let b1 ← index plain (pos + 1)
      let b2 ← index plain (pos + 2)
      let b3 ← index plain (pos + 3)
      let rawLen := b1.toNat ||| (b2.toNat <<< 8) ||| (b3.toNat <<< 16)
      return endOfMessage plain (pos + 4) (rawLen * 4)
  else return endOfMessage plain (pos + 1) (first.toNat * 4)

/-- `while pos < plain.len()`, pushing each position reached. The fuel bounds
the number of passes. -/
def scanBoundaries (plain : Bytes) : Nat → Nat → List Nat → Checked (List Nat)
  | 0, _, boundaries => .ok boundaries
  | fuel + 1, pos, boundaries =>
    if pos < plain.length then do
      match ← scanMessage plain pos with
      | none => return boundaries
      | some stop => scanBoundaries plain fuel stop (boundaries ++ [stop])
    else .ok boundaries

/-- `for end in boundaries`, returning the parts and the last `prev`. -/
def cutParts (chunk : Bytes) : Nat → List Nat → Checked (List Bytes × Nat)
  | prev, [] => .ok ([], prev)
  | prev, stop :: boundaries => do
    let part ← slice chunk prev stop
    let (parts, last) ← cutParts chunk stop boundaries
    return (part :: parts, last)

def split (s : MtProtoMessageSplitter) (chunk : Bytes) :
    Checked (List Bytes × MtProtoMessageSplitter) :=
  if chunk.isEmpty then .ok ([[]], s)
  else do
    let (plain, cipher) := s.cipher.applyKeystream aes chunk
    let boundaries ← scanBoundaries plain plain.length 0 []
    if boundaries.length ≤ 1 then return ([chunk], ⟨cipher⟩)
    else
      let (parts, prev) ← cutParts chunk 0 boundaries
      if prev < chunk.length then
        let tail ← slice chunk prev chunk.length
        return (parts ++ [tail], ⟨cipher⟩)
      else return (parts, ⟨cipher⟩)

end MtProtoMessageSplitter

/-- Octets of the header at the front of a stream and of the body it announces.
Every first octet but `0x7f` counts four-octet words itself. -/
def abridgedHeader : Bytes → Option (Nat × Nat)
  | [] => none
  | first :: rest =>
    if first = 0x7f then
      if 3 ≤ rest.length then some (4, ofLE (rest.take 3) * 4) else none
    else some (1, first.toNat * 4)

def abridgedSize (xs : Bytes) : Option Nat :=
  match abridgedHeader xs with
  | none => none
  | some (header, body) =>
    if body = 0 ∨ header + body > xs.length then none else some (header + body)

theorem abridgedHeader_append (xs ys : Bytes) (header body : Nat)
    (h : abridgedHeader xs = some (header, body)) :
    abridgedHeader (xs ++ ys) = some (header, body) := by
  cases xs with
  | nil => simp [abridgedHeader] at h
  | cons first rest =>
    simp only [List.cons_append, abridgedHeader] at h ⊢
    by_cases hf : first = 0x7f
    · rw [if_pos hf] at h ⊢
      by_cases h3 : 3 ≤ rest.length
      · rw [if_pos h3] at h
        rw [if_pos (by rw [List.length_append]; omega), List.take_append_of_le_length h3, h]
      · rw [if_neg h3] at h
        cases h
    · rw [if_neg hf] at h ⊢
      exact h

theorem abridgedSize_eq_some (xs : Bytes) (n : Nat) :
    abridgedSize xs = some n ↔
      ∃ header body, abridgedHeader xs = some (header, body) ∧ body ≠ 0 ∧
        header + body ≤ xs.length ∧ header + body = n := by
  unfold abridgedSize
  cases hh : abridgedHeader xs with
  | none => simp
  | some pair =>
    obtain ⟨header, body⟩ := pair
    simp only [Option.some.injEq, Prod.mk.injEq]
    constructor
    · intro h
      split at h
      · cases h
      · exact ⟨header, body, ⟨rfl, rfl⟩, by omega, by omega, Option.some.inj h⟩
    · intro hexists
      obtain ⟨_, _, ⟨rfl, rfl⟩, hb, hle, rfl⟩ := hexists
      rw [if_neg (by omega)]

/-- The framing that the loop of `split` decodes. -/
def abridged : Framing UInt8 where
  size := abridgedSize
  size_pos := by
    intro xs n h
    obtain ⟨header, body, -, hb, -, rfl⟩ := (abridgedSize_eq_some xs n).mp h
    omega
  size_le := by
    intro xs n h
    obtain ⟨header, body, -, -, hle, rfl⟩ := (abridgedSize_eq_some xs n).mp h
    exact hle
  size_append := by
    intro xs n ys h
    obtain ⟨header, body, hh, hb, hle, rfl⟩ := (abridgedSize_eq_some xs n).mp h
    refine (abridgedSize_eq_some _ _).mpr
      ⟨header, body, abridgedHeader_append xs ys header body hh, hb, ?_, rfl⟩
    simp only [List.length_append]
    omega

theorem abridged_size (xs : Bytes) : abridged.size xs = abridgedSize xs := rfl

/-- The three length octets, joined by shifts in the source. -/
theorem rawLen_eq (b1 b2 b3 : UInt8) :
    b1.toNat ||| (b2.toNat <<< 8) ||| (b3.toNat <<< 16) = ofLE [b1, b2, b3] := by
  have h1 : b1.toNat < 2 ^ 8 := b1.toNat_lt
  have h2 : b2.toNat < 2 ^ 8 := b2.toNat_lt
  have hlow : b1.toNat ||| (b2.toNat <<< 8) = b1.toNat + 256 * b2.toNat := by
    rw [Nat.or_comm, ← Nat.shiftLeft_add_eq_or_of_lt h1, Nat.shiftLeft_eq]
    omega
  have hmid : b1.toNat + 256 * b2.toNat < 2 ^ 16 := by omega
  rw [hlow, Nat.or_comm, ← Nat.shiftLeft_add_eq_or_of_lt hmid, Nat.shiftLeft_eq]
  simp only [ofLE_cons, ofLE_nil]
  omega

namespace MtProtoMessageSplitter

variable (aes : Aes256)

/-- A pass of the loop reads the frame at `pos` and leaves no array. -/
theorem scanMessage_eq (plain : Bytes) (pos : Nat) (h : pos < plain.length) :
    scanMessage plain pos = .ok ((abridgedSize (plain.drop pos)).map (pos + ·)) := by
  have hdrop : plain.drop pos = plain[pos] :: plain.drop (pos + 1) := List.drop_eq_getElem_cons h
  have hlen : (plain.drop pos).length = plain.length - pos := List.length_drop
  unfold scanMessage abridgedSize
  rw [index_of_lt plain pos h]
  simp only [bind, Except.bind]
  by_cases hf : plain[pos] = 0x7f
  · rw [if_pos hf]
    by_cases h4 : pos + 4 > plain.length
    · rw [if_pos h4, hdrop, abridgedHeader, if_pos hf, if_neg (by simp; omega)]
      rfl
    · rw [if_neg h4, index_of_lt plain (pos + 1) (by omega), index_of_lt plain (pos + 2) (by omega),
        index_of_lt plain (pos + 3) (by omega)]
      have htake : (plain.drop (pos + 1)).take 3 = [plain[pos + 1], plain[pos + 2], plain[pos + 3]] := by
        rw [List.drop_eq_getElem_cons (by omega), List.drop_eq_getElem_cons (by omega),
          List.drop_eq_getElem_cons (by omega)]
        rfl
      have hheader : abridgedHeader (plain.drop pos) =
          some (4, ofLE [plain[pos + 1], plain[pos + 2], plain[pos + 3]] * 4) := by
        rw [hdrop, abridgedHeader, if_pos hf, if_pos (by simp; omega), htake]
      simp only [hheader, rawLen_eq, endOfMessage, hlen, pure, Except.pure]
      split <;> split <;> first | rfl | omega | simp [Nat.add_assoc]
  · have hheader : abridgedHeader (plain.drop pos) = some (1, plain[pos].toNat * 4) := by
      rw [hdrop, abridgedHeader, if_neg hf]
    rw [if_neg hf]
    simp only [hheader, endOfMessage, hlen, pure, Except.pure]
    split <;> split <;> first | rfl | omega | simp [Nat.add_assoc]

/-- The loop collects the running totals of the frames from `pos` on. -/
theorem scanBoundaries_eq (plain : Bytes) (fuel pos : Nat) (acc : List Nat)
    (hfuel : plain.length ≤ pos + fuel) :
    scanBoundaries plain fuel pos acc =
      .ok (acc ++ (totals ((abridged.frames (plain.drop pos)).map List.length)).map (pos + ·)) := by
  induction fuel generalizing pos acc with
  | zero =>
    have hnil : plain.drop pos = [] := List.drop_eq_nil_of_le (by omega)
    simp [scanBoundaries, hnil, abridged.frames_of_none [] abridged.size_nil, totals]
  | succ fuel ih =>
    unfold scanBoundaries
    by_cases hpos : pos < plain.length
    · rw [if_pos hpos, scanMessage_eq plain pos hpos]
      cases hs : abridgedSize (plain.drop pos) with
      | none =>
        simp [bind, Except.bind, pure, Except.pure, abridged.frames_of_none _ hs, totals]
      | some n =>
        have hn : 0 < n := abridged.size_pos hs
        have hle : n ≤ (plain.drop pos).length := abridged.size_le hs
        simp only [bind, Except.bind, Option.map_some]
        rw [ih (pos + n) (acc ++ [pos + n]) (by omega), abridged.frames_of_some _ n hs]
        simp only [List.map_cons, List.length_take, Nat.min_eq_left hle, totals, List.drop_drop,
          List.map_map, List.append_assoc, List.singleton_append, Function.comp_def, Nat.add_assoc]
    · have hnil : plain.drop pos = [] := List.drop_eq_nil_of_le (by omega)
      simp [hpos, hnil, abridged.frames_of_none [] abridged.size_nil, totals]

/-- The parts between increasing positions are the pieces of these lengths. -/
theorem cutParts_eq (chunk : Bytes) (prev : Nat) (ns : List Nat)
    (hsum : prev + ns.sum ≤ chunk.length) :
    ∃ parts, cutParts chunk prev ((totals ns).map (prev + ·)) = .ok (parts, prev + ns.sum) ∧
      parts ++ (if prev + ns.sum < chunk.length then [chunk.drop (prev + ns.sum)] else []) =
        pieces ns (chunk.drop prev) := by
  induction ns generalizing prev with
  | nil =>
    refine ⟨[], by simp [cutParts, totals], ?_⟩
    by_cases h : prev < chunk.length
    · have hne : (chunk.drop prev).isEmpty = false := by simp [h]
      simp [pieces, h]
    · have hnil : chunk.drop prev = [] := List.drop_eq_nil_of_le (by omega)
      simp [pieces, h]
  | cons n ns ih =>
    simp only [List.sum_cons] at hsum
    obtain ⟨parts, hcut, hparts⟩ := ih (prev + n) (by omega)
    have hmap : (totals (n :: ns)).map (prev + ·) =
        (prev + n) :: (totals ns).map (prev + n + ·) := by
      simp [totals, Function.comp_def, Nat.add_assoc]
    refine ⟨chunk.extract prev (prev + n) :: parts, ?_, ?_⟩
    · rw [hmap, cutParts, slice_of_le chunk prev (prev + n) (by omega) (by omega), hcut]
      simp [bind, Except.bind, pure, Except.pure, Nat.add_assoc]
    · simp only [List.sum_cons, pieces, List.cons_append, List.drop_drop, ← Nat.add_assoc, hparts]
      simp

/-- What a call returns for a chunk whose decryption is `plain`. -/
def partsOf (plain chunk : Bytes) : List Bytes :=
  let sizes := (abridged.frames plain).map List.length
  if sizes.length ≤ 1 then [chunk] else pieces sizes chunk

theorem partsOf_flatten (plain chunk : Bytes) : (partsOf plain chunk).flatten = chunk := by
  dsimp only [partsOf]
  split
  · simp
  · exact pieces_flatten _ _

theorem partsOf_ne_nil (plain chunk : Bytes) (hlen : plain.length = chunk.length)
    (h : chunk ≠ []) : ∀ part ∈ partsOf plain chunk, part ≠ [] := by
  dsimp only [partsOf]
  split
  · simp [h]
  · apply pieces_ne_nil
    · intro n hn
      obtain ⟨frame, hframe, rfl⟩ := List.mem_map.mp hn
      exact List.length_pos_iff.mpr (abridged.frames_ne_nil plain frame hframe)
    · rw [← List.length_flatten, ← hlen]
      exact (abridged.frames_flatten_prefix plain).length_le

/-- No read of `split` leaves its array; a non-empty chunk is cut at the frames
of its decryption, and the cipher moves on by the length of the chunk. -/
theorem split_eq (s : MtProtoMessageSplitter) (chunk : Bytes) (h : chunk ≠ []) :
    split aes s chunk =
      .ok (partsOf (mask (aes s.cipher.key s.cipher.iv) s.cipher.pos chunk) chunk,
        ⟨{ s.cipher with pos := s.cipher.pos + chunk.length }⟩) := by
  have hne : chunk.isEmpty = false := by simpa using h
  unfold split
  simp only [hne, Bool.false_eq_true, if_false, Aes256Ctr.applyKeystream]
  set plain := mask (aes s.cipher.key s.cipher.iv) s.cipher.pos chunk with hplain
  have hlen : plain.length = chunk.length := mask_length _ _ _
  rw [scanBoundaries_eq plain plain.length 0 [] (by omega)]
  simp only [bind, Except.bind, List.drop_zero, List.nil_append, Nat.zero_add, List.map_id',
    totals_length, partsOf]
  by_cases h1 : ((abridged.frames plain).map List.length).length ≤ 1
  · rw [if_pos h1, if_pos h1]
    rfl
  · rw [if_neg h1, if_neg h1]
    have hsum : 0 + ((abridged.frames plain).map List.length).sum ≤ chunk.length := by
      have hp := (abridged.frames_flatten_prefix plain).length_le
      rw [List.length_flatten] at hp
      omega
    obtain ⟨parts, hcut, hparts⟩ := cutParts_eq chunk 0 _ hsum
    simp only [Nat.zero_add, List.map_id', List.drop_zero] at hcut hparts hsum
    rw [hcut]
    dsimp only
    split
    · rename_i hlt
      rw [slice_of_le chunk _ _ (by omega) (Nat.le_refl _)]
      rw [if_pos hlt] at hparts
      simp only [pure, Except.pure, ← hparts]
      simp
    · rename_i hlt
      rw [if_neg hlt, List.append_nil] at hparts
      simp only [pure, Except.pure, hparts]

end MtProtoMessageSplitter

/-! ## The splitter of plain text -/

/-- The `end` of the message at `pos`; `none` is a `break`. -/
def endOfPlain (chunk : Bytes) (pos totalLen : Nat) : Option Nat :=
  if pos + totalLen > chunk.length then none else some (pos + totalLen)

/-- One pass of the loop up to its slice. The three length octets are not
multiplied here. -/
def scanPlain (chunk : Bytes) (pos : Nat) : Checked (Option Nat) := do
  let first ← index chunk pos
  let len := first.toNat
  if len = 0 then return none
  else if len = 0x7f then
    if pos + 4 > chunk.length then return none
    else
      let b1 ← index chunk (pos + 1)
      let b2 ← index chunk (pos + 2)
      let b3 ← index chunk (pos + 3)
      let rawLen := ofLE [b1, b2, b3, 0]
      return endOfPlain chunk pos (4 + rawLen)
  else return endOfPlain chunk pos (1 + len * 4)

/-- `while pos < chunk.len()`, pushing the slice of each pass. The fuel bounds
the number of passes. -/
def plainParts (chunk : Bytes) : Nat → Nat → List Bytes → Checked (List Bytes)
  | 0, _, parts => .ok parts
  | fuel + 1, pos, parts =>
    if pos < chunk.length then do
      match ← scanPlain chunk pos with
      | none => return parts
      | some stop =>
        let part ← slice chunk pos stop
        plainParts chunk fuel stop (parts ++ [part])
    else .ok parts

def splitPlainMtprotoMessages (chunk : Bytes) : Checked (List Bytes) := do
  let parts ← plainParts chunk chunk.length 0 []
  if parts.isEmpty then return [chunk] else return parts

/-- The `total_len` of the message at the front of a stream. -/
def plainTotalLen : Bytes → Option Nat
  | [] => none
  | first :: rest =>
    if first.toNat = 0 then none
    else if first.toNat = 0x7f then
      if 3 ≤ rest.length then some (4 + ofLE (rest.take 3)) else none
    else some (1 + first.toNat * 4)

def plainSize (xs : Bytes) : Option Nat := (plainTotalLen xs).filter (· ≤ xs.length)

theorem plainSize_eq_some (xs : Bytes) (n : Nat) :
    plainSize xs = some n ↔ plainTotalLen xs = some n ∧ n ≤ xs.length := by
  simp [plainSize, Option.filter_eq_some_iff]

theorem plainTotalLen_append (xs ys : Bytes) (n : Nat) (h : plainTotalLen xs = some n) :
    plainTotalLen (xs ++ ys) = some n := by
  cases xs with
  | nil => simp [plainTotalLen] at h
  | cons first rest =>
    rw [plainTotalLen] at h
    rw [List.cons_append, plainTotalLen]
    by_cases hzero : first.toNat = 0
    · rw [if_pos hzero] at h
      cases h
    · rw [if_neg hzero] at h ⊢
      by_cases hf : first.toNat = 0x7f
      · rw [if_pos hf] at h ⊢
        by_cases h3 : 3 ≤ rest.length
        · rw [if_pos h3] at h
          rw [if_pos (by rw [List.length_append]; omega), List.take_append_of_le_length h3, h]
        · rw [if_neg h3] at h
          cases h
      · rw [if_neg hf] at h ⊢
        exact h

theorem plainTotalLen_pos (xs : Bytes) (n : Nat) (h : plainTotalLen xs = some n) : 0 < n := by
  cases xs with
  | nil => simp [plainTotalLen] at h
  | cons first rest =>
    rw [plainTotalLen] at h
    split at h
    · cases h
    · split at h
      · split at h
        · cases h
          omega
        · cases h
      · cases h
        omega

/-- The framing that the loop of `split_plain_mtproto_messages` decodes. -/
def plainFraming : Framing UInt8 where
  size := plainSize
  size_pos := by
    intro xs n h
    exact plainTotalLen_pos xs n ((plainSize_eq_some xs n).mp h).1
  size_le := by
    intro xs n h
    exact ((plainSize_eq_some xs n).mp h).2
  size_append := by
    intro xs n ys h
    obtain ⟨htotal, hle⟩ := (plainSize_eq_some xs n).mp h
    refine (plainSize_eq_some _ _).mpr ⟨plainTotalLen_append xs ys n htotal, ?_⟩
    rw [List.length_append]
    omega

theorem plainFraming_size (xs : Bytes) : plainFraming.size xs = plainSize xs := rfl

theorem endOfPlain_eq (chunk : Bytes) (pos n : Nat) (h : pos ≤ chunk.length) :
    endOfPlain chunk pos n =
      ((some n).filter (· ≤ (chunk.drop pos).length)).map (pos + ·) := by
  have hlen : (chunk.drop pos).length = chunk.length - pos := List.length_drop
  unfold endOfPlain
  by_cases hn : pos + n > chunk.length
  · rw [if_pos hn, Option.filter_some_neg (by simp; omega)]
    rfl
  · rw [if_neg hn, Option.filter_some_pos (by simp; omega)]
    rfl

/-- A pass of the loop reads the frame at `pos` and leaves no array. -/
theorem scanPlain_eq (chunk : Bytes) (pos : Nat) (h : pos < chunk.length) :
    scanPlain chunk pos = .ok ((plainSize (chunk.drop pos)).map (pos + ·)) := by
  have hdrop : chunk.drop pos = chunk[pos] :: chunk.drop (pos + 1) := List.drop_eq_getElem_cons h
  have hrest : (chunk.drop (pos + 1)).length = chunk.length - (pos + 1) := List.length_drop
  have hend := fun n => endOfPlain_eq chunk pos n (by omega)
  unfold scanPlain plainSize
  rw [index_of_lt chunk pos h]
  simp only [bind, Except.bind]
  by_cases hzero : chunk[pos].toNat = 0
  · rw [if_pos hzero, hdrop, plainTotalLen, if_pos hzero]
    rfl
  · rw [if_neg hzero]
    by_cases hf : chunk[pos].toNat = 0x7f
    · rw [if_pos hf]
      by_cases h4 : pos + 4 > chunk.length
      · rw [if_pos h4, hdrop, plainTotalLen, if_neg hzero, if_pos hf, if_neg (by omega)]
        rfl
      · have htake : (chunk.drop (pos + 1)).take 3 =
            [chunk[pos + 1], chunk[pos + 2], chunk[pos + 3]] := by
          rw [List.drop_eq_getElem_cons (by omega), List.drop_eq_getElem_cons (by omega),
            List.drop_eq_getElem_cons (by omega)]
          rfl
        have htotal : plainTotalLen (chunk.drop pos) =
            some (4 + ofLE [chunk[pos + 1], chunk[pos + 2], chunk[pos + 3]]) := by
          rw [hdrop, plainTotalLen, if_neg hzero, if_pos hf, if_pos (by omega), htake]
        rw [if_neg h4, index_of_lt chunk (pos + 1) (by omega),
          index_of_lt chunk (pos + 2) (by omega), index_of_lt chunk (pos + 3) (by omega)]
        simp only [hend, htotal, pure, Except.pure, ofLE_cons, ofLE_nil, UInt8.toNat_zero]
    · have htotal : plainTotalLen (chunk.drop pos) = some (1 + chunk[pos].toNat * 4) := by
        rw [hdrop, plainTotalLen, if_neg hzero, if_neg hf]
      rw [if_neg hf, htotal, hend]
      rfl

/-- The loop collects the frames from `pos` on. -/
theorem plainParts_eq (chunk : Bytes) (fuel pos : Nat) (acc : List Bytes)
    (hfuel : chunk.length ≤ pos + fuel) :
    plainParts chunk fuel pos acc = .ok (acc ++ plainFraming.frames (chunk.drop pos)) := by
  induction fuel generalizing pos acc with
  | zero =>
    have hnil : chunk.drop pos = [] := List.drop_eq_nil_of_le (by omega)
    simp [plainParts, hnil, plainFraming.frames_of_none [] plainFraming.size_nil]
  | succ fuel ih =>
    unfold plainParts
    by_cases hpos : pos < chunk.length
    · rw [if_pos hpos, scanPlain_eq chunk pos hpos]
      cases hs : plainSize (chunk.drop pos) with
      | none =>
        simp [bind, Except.bind, pure, Except.pure, plainFraming.frames_of_none _ hs]
      | some n =>
        have hn : 0 < n := plainFraming.size_pos hs
        have hle : n ≤ (chunk.drop pos).length := plainFraming.size_le hs
        rw [List.length_drop] at hle
        simp only [bind, Except.bind, Option.map_some]
        rw [slice_of_le chunk pos (pos + n) (by omega) (by omega)]
        dsimp only
        rw [ih (pos + n) _ (by omega), plainFraming.frames_of_some _ n hs, List.drop_drop,
          List.append_assoc, List.singleton_append, List.extract_eq_take_drop]
        simp
    · have hnil : chunk.drop pos = [] := List.drop_eq_nil_of_le (by omega)
      simp [hpos, hnil, plainFraming.frames_of_none [] plainFraming.size_nil]

/-- No read or slice leaves the chunk; the parts are its frames, without what
follows the last of them. -/
theorem splitPlainMtprotoMessages_eq (chunk : Bytes) :
    splitPlainMtprotoMessages chunk =
      .ok (if (plainFraming.frames chunk).isEmpty then [chunk] else plainFraming.frames chunk) := by
  unfold splitPlainMtprotoMessages
  rw [plainParts_eq chunk chunk.length 0 [] (by omega), List.drop_zero, List.nil_append]
  simp only [bind, Except.bind, pure, Except.pure]
  split <;> rfl

end TgWsProxy.Source.Telegram
