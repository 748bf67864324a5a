import TgWsProxy.Source.Telegram.Splitter

/-!
# The plain splitter against the stateful one

`split_plain_mtproto_messages` decodes the abridged header with a loop of its
own. It counts the octets behind a `0x7f` header where the stateful splitter
counts four-octet words, and it drops what follows its last message. On a chunk
of two or more complete messages and a tail the two agree exactly when no
message has that header and the tail leaves neither difference a place to show
(`splitters_agree_iff`).
-/

set_option autoImplicit false

namespace TgWsProxy.Guarantees.PlainSplitter
open Library Source.Telegram MtProtoMessageSplitter

/-- A tail on which the two headers mean the same: messages with a one-octet
header, then nothing, or `0x7f`, three length octets and as many octets as
these count. -/
inductive ReadAlike : Bytes → Prop
  | done : ReadAlike []
  | words (first : UInt8) (body rest : Bytes) (short : first ≠ 0x7f) (nonzero : first ≠ 0)
      (size : body.length = first.toNat * 4) (more : ReadAlike rest) :
      ReadAlike (first :: (body ++ rest))
  | octets (b1 b2 b3 : UInt8) (body : Bytes) (size : body.length = ofLE [b1, b2, b3]) :
      ReadAlike (0x7f :: b1 :: b2 :: b3 :: body)

/-! ## The two headers -/

theorem abridgedSize_short (first : UInt8) (rest : Bytes) (n : Nat) (short : first ≠ 0x7f) :
    abridgedSize (first :: rest) = some n ↔
      first ≠ 0 ∧ n = 1 + first.toNat * 4 ∧ n ≤ rest.length + 1 := by
  rw [abridgedSize_eq_some, abridgedHeader, if_neg short]
  simp only [Option.some.injEq, Prod.mk.injEq, List.length_cons, ne_eq, ← UInt8.toNat_inj,
    UInt8.toNat_zero]
  constructor
  · rintro ⟨_, _, ⟨rfl, rfl⟩, hne, hle, rfl⟩
    exact ⟨by omega, rfl, hle⟩
  · rintro ⟨hne, rfl, hle⟩
    exact ⟨1, first.toNat * 4, ⟨rfl, rfl⟩, by omega, hle, rfl⟩

theorem plainSize_short (first : UInt8) (rest : Bytes) (n : Nat) (short : first ≠ 0x7f) :
    plainSize (first :: rest) = some n ↔
      first ≠ 0 ∧ n = 1 + first.toNat * 4 ∧ n ≤ rest.length + 1 := by
  have hshort : first.toNat ≠ 0x7f := fun h => short (UInt8.toNat_inj.mp h)
  rw [plainSize_eq_some, plainTotalLen, if_neg hshort, List.length_cons]
  by_cases hzero : first = 0
  · subst hzero
    simp
  · have hne : first.toNat ≠ 0 := fun h => hzero (UInt8.toNat_inj.mp h)
    rw [if_neg hne, Option.some.injEq]
    constructor
    · rintro ⟨rfl, hle⟩
      exact ⟨hzero, rfl, hle⟩
    · rintro ⟨-, rfl, hle⟩
      exact ⟨rfl, hle⟩

theorem abridgedSize_long (rest : Bytes) (n : Nat) :
    abridgedSize (0x7f :: rest) = some n ↔
      3 ≤ rest.length ∧ ofLE (rest.take 3) ≠ 0 ∧ n = 4 + ofLE (rest.take 3) * 4 ∧
        n ≤ rest.length + 1 := by
  rw [abridgedSize_eq_some, abridgedHeader, if_pos rfl]
  by_cases h3 : 3 ≤ rest.length
  · simp only [if_pos h3, Option.some.injEq, Prod.mk.injEq, List.length_cons]
    constructor
    · rintro ⟨_, _, ⟨rfl, rfl⟩, hne, hle, rfl⟩
      exact ⟨h3, by omega, rfl, hle⟩
    · rintro ⟨-, hne, rfl, hle⟩
      exact ⟨4, _, ⟨rfl, rfl⟩, by omega, hle, rfl⟩
  · simp [h3]

theorem plainSize_long (rest : Bytes) (n : Nat) :
    plainSize (0x7f :: rest) = some n ↔
      3 ≤ rest.length ∧ n = 4 + ofLE (rest.take 3) ∧ n ≤ rest.length + 1 := by
  rw [plainSize_eq_some, plainTotalLen, if_neg (by decide), if_pos (by decide)]
  by_cases h3 : 3 ≤ rest.length
  · rw [if_pos h3, Option.some.injEq, List.length_cons]
    constructor
    · rintro ⟨rfl, hle⟩
      exact ⟨h3, rfl, hle⟩
    · rintro ⟨-, rfl, hle⟩
      exact ⟨rfl, hle⟩
  · simp [h3]

/-- Where a message stands, the two read the same size unless its header is the long one. -/
theorem plainSize_eq_iff (xs : Bytes) (n : Nat) (h : abridgedSize xs = some n) :
    plainSize xs = some n ↔ xs.head? ≠ some 0x7f := by
  cases xs with
  | nil =>
    rw [← abridged_size, abridged.size_nil] at h
    cases h
  | cons first rest =>
    rw [List.head?_cons, ne_eq, Option.some.injEq]
    by_cases hlong : first = 0x7f
    · subst hlong
      obtain ⟨-, hne, hn, -⟩ := (abridgedSize_long rest n).mp h
      rw [plainSize_long]
      simp only [not_true_eq_false, iff_false]
      omega
    · rw [plainSize_short first rest n hlong, ← abridgedSize_short first rest n hlong]
      simp [h, hlong]

/-- Where no message stands, the plain splitter takes the rest whole when it is the octets
that a long header counts. -/
theorem plainSize_whole_iff (xs : Bytes) (h : abridgedSize xs = none) :
    plainSize xs = some xs.length ↔
      ∃ b1 b2 b3 body, xs = 0x7f :: b1 :: b2 :: b3 :: body ∧ body.length = ofLE [b1, b2, b3] := by
  constructor
  · intro hplain
    cases xs with
    | nil =>
      rw [← plainFraming_size, plainFraming.size_nil] at hplain
      cases hplain
    | cons first rest =>
      by_cases hlong : first = 0x7f
      · subst hlong
        obtain ⟨h3, hn, -⟩ := (plainSize_long rest _).mp hplain
        match rest, h3 with
        | b1 :: b2 :: b3 :: body, _ =>
          refine ⟨b1, b2, b3, body, rfl, ?_⟩
          simp only [List.length_cons, List.take_succ_cons, List.take_zero] at hn
          omega
      · have hsize := (plainSize_short first rest _ hlong).mp hplain
        rw [← abridgedSize_short first rest _ hlong, h] at hsize
        cases hsize
  · rintro ⟨b1, b2, b3, body, rfl, hbody⟩
    refine (plainSize_long _ _).mpr ⟨by simp, ?_, by simp⟩
    simp only [List.length_cons, List.take_succ_cons, List.take_zero]
    omega

/-! ## The tail -/

theorem readAlike_iff (tail : Bytes) :
    plainFraming.frames tail = pieces ((abridged.frames tail).map List.length) tail ↔
      ReadAlike tail := by
  induction tail using abridged.frames_induction with
  | stop xs hs =>
    rw [abridged.frames_eq_pieces_of_none plainFraming xs hs, plainFraming_size]
    rw [abridged_size] at hs
    constructor
    · rintro (rfl | hwhole)
      · exact .done
      · obtain ⟨b1, b2, b3, body, rfl, hbody⟩ := (plainSize_whole_iff xs hs).mp hwhole
        exact .octets b1 b2 b3 body hbody
    · intro h
      cases h with
      | done => exact Or.inl rfl
      | words first body rest short nonzero size more =>
        have hsize : abridgedSize (first :: (body ++ rest)) = some (1 + first.toNat * 4) := by
          refine (abridgedSize_short first _ _ short).mpr ⟨nonzero, rfl, ?_⟩
          rw [List.length_append]
          omega
        exact absurd (hs.symm.trans hsize) (by simp)
      | octets b1 b2 b3 body size =>
        exact Or.inr ((plainSize_whole_iff _ hs).mpr ⟨b1, b2, b3, body, rfl, size⟩)
  | frame xs n hs ih =>
    rw [abridged.frames_eq_pieces_of_some plainFraming xs n hs, ih, plainFraming_size]
    rw [abridged_size] at hs
    rw [plainSize_eq_iff xs n hs]
    constructor
    · rintro ⟨hshort, hmore⟩
      cases xs with
      | nil => exact absurd (hs.symm.trans abridged.size_nil) (by simp)
      | cons first rest =>
        have short : first ≠ 0x7f := fun h => hshort (by rw [h]; rfl)
        obtain ⟨nonzero, hn, hle⟩ := (abridgedSize_short first rest n short).mp hs
        rw [hn, Nat.add_comm, List.drop_succ_cons] at hmore
        rw [← List.take_append_drop (first.toNat * 4) rest]
        exact .words first _ _ short nonzero (by rw [List.length_take]; omega) hmore
    · intro h
      cases h with
      | done => exact absurd (hs.symm.trans abridged.size_nil) (by simp)
      | words first body rest short nonzero size more =>
        obtain ⟨-, hn, -⟩ := (abridgedSize_short first _ n short).mp hs
        refine ⟨by simpa using short, ?_⟩
        rw [hn, Nat.add_comm, List.drop_succ_cons, ← size, List.drop_left]
        exact more
      | octets b1 b2 b3 body size =>
        -- The words that the header counts would not fit in the octets that are there.
        obtain ⟨-, hne, hn, hle⟩ := (abridgedSize_long _ n).mp hs
        simp only [List.length_cons, List.take_succ_cons, List.take_zero] at hne hn hle
        omega

/-! ## The two splitters -/

/-- The client's octets for a chunk: its cipher stands where the splitter's does. -/
def encryption (aes : Aes256) (s : MtProtoMessageSplitter) (chunk : Bytes) : Bytes :=
  (s.cipher.applyKeystream aes chunk).1

/-- Both splitters return, the stateful one for the encryption of the chunk;
their parts have the same lengths in the same order, and each time the parts
make up the whole chunk. -/
def SplitAlike (aes : Aes256) (s : MtProtoMessageSplitter) (chunk : Bytes) : Prop :=
  ∃ parts parts' next, splitPlainMtprotoMessages chunk = .ok parts ∧
    split aes s (encryption aes s chunk) = .ok (parts', next) ∧
    parts.map List.length = parts'.map List.length ∧
    parts.flatten = chunk ∧ parts'.flatten = encryption aes s chunk

theorem splitAlike_iff (aes : Aes256) (s : MtProtoMessageSplitter) (chunk : Bytes)
    (two : 2 ≤ (abridged.frames chunk).length) :
    SplitAlike aes s chunk ↔
      plainFraming.frames chunk = pieces ((abridged.frames chunk).map List.length) chunk := by
  set sizes := (abridged.frames chunk).map List.length with hsizes
  set encrypted := encryption aes s chunk with hencrypted
  have hlen : encrypted.length = chunk.length := mask_length _ _ _
  have hne : encrypted ≠ [] := by
    intro hnil
    have hchunk : chunk = [] := List.length_eq_zero_iff.mp (by rw [← hlen, hnil]; rfl)
    rw [hchunk, abridged.frames_of_none [] abridged.size_nil] at two
    cases two
  have hplain : mask (aes s.cipher.key s.cipher.iv) s.cipher.pos encrypted = chunk :=
    mask_mask _ _ _
  have hcount : ¬ sizes.length ≤ 1 := by
    rw [hsizes, List.length_map]
    omega
  have hsplit := split_eq aes s encrypted hne
  have hparts : partsOf chunk encrypted = pieces sizes encrypted := if_neg hcount
  rw [hplain, hparts] at hsplit
  have hlengths := pieces_lengths sizes encrypted chunk hlen
  have hpieces := length_le_pieces sizes chunk
  unfold SplitAlike
  rw [splitPlainMtprotoMessages_eq, ← hencrypted, hsplit]
  constructor
  · rintro ⟨parts, parts', next, hparts, hparts', hsame, -, -⟩
    cases hparts
    cases hparts'
    rw [hlengths] at hsame
    by_cases hnone : plainFraming.frames chunk = []
    · rw [hnone, List.isEmpty_nil, if_pos rfl] at hsame
      have := congrArg List.length hsame
      simp only [List.length_map, List.length_singleton] at this
      omega
    · rw [if_neg (by simpa using hnone)] at hsame
      exact (Framing.frames_lengths_eq_iff plainFraming sizes chunk).mp hsame
  · intro hframes
    have hsome : (pieces sizes chunk).isEmpty = false := by
      cases hp : pieces sizes chunk with
      | nil => rw [hp, List.length_nil] at hpieces; omega
      | cons part parts => rfl
    refine ⟨_, _, _, rfl, rfl, ?_, ?_, pieces_flatten _ _⟩
    · rw [hframes, hsome, if_neg Bool.false_ne_true, hlengths]
    · rw [hframes, hsome, if_neg Bool.false_ne_true, pieces_flatten]

/-- On the concatenation of two or more complete messages and a tail, the two splitters agree
exactly when no message has the long header and the tail is read alike. -/
theorem splitters_agree_iff (aes : Aes256) (s : MtProtoMessageSplitter) (ms : List Bytes)
    (tail : Bytes) (complete : ∀ m ∈ ms, abridged.Complete m) (two : 2 ≤ ms.length) :
    SplitAlike aes s (ms.flatten ++ tail) ↔
      (∀ m ∈ ms, m.head? ≠ some 0x7f) ∧ ReadAlike tail := by
  have hcut := abridged.frames_flatten_append ms tail complete
  have hown : ∀ m ∈ ms, ∀ ys, plainFraming.size (m ++ ys) = some m.length ↔
      m.head? ≠ some 0x7f := by
    intro m hm ys
    have hsize := abridged.size_complete_append m ys (complete m hm)
    have hne : m ≠ [] := by
      rintro rfl
      exact absurd ((complete [] hm).symm.trans abridged.size_nil) (by simp)
    have hhead : (m ++ ys).head? = m.head? := List.head?_append_of_ne_nil m hne
    rw [plainFraming_size, ← hhead]
    exact plainSize_eq_iff (m ++ ys) m.length hsize
  have hcomplete : ∀ m ∈ ms, plainFraming.Complete m ↔ m.head? ≠ some 0x7f := by
    intro m hm
    have h := hown m hm []
    rwa [List.append_nil] at h
  rw [splitAlike_iff aes s _ (by rw [hcut, List.length_append]; omega),
    abridged.frames_eq_pieces_flatten_append plainFraming ms tail complete
      (fun m hm ys => (hown m hm ys).trans (hcomplete m hm).symm),
    readAlike_iff]
  exact and_congr (forall₂_congr hcomplete) Iff.rfl

def sampleSplitter : MtProtoMessageSplitter := ⟨⟨sampleKey, sampleIv, 64⟩⟩

def shortBatch : List Bytes := [[1, 5, 6, 7, 8], [2, 1, 2, 3, 4, 5, 6, 7, 8]]

def longBatch : List Bytes := [[0x7f, 1, 0, 0, 5, 6, 7, 8], [1, 1, 2, 3, 4]]

theorem splitters_agree_iff_whole_rest :
    SplitAlike sampleAes sampleSplitter (shortBatch.flatten ++ [0x7f, 2, 0, 0, 9, 9]) :=
  (splitters_agree_iff sampleAes sampleSplitter shortBatch _ (by decide) (by decide)).mpr
    ⟨by decide, .octets 2 0 0 [9, 9] (by decide)⟩

/-- One octet behind two short messages is in no part; a long message is cut after the
octets that its header counts, a quarter of them. -/
theorem tail_dropped_and_long_message_cut :
    (∀ m ∈ shortBatch, abridged.Complete m) ∧ 2 ≤ shortBatch.length ∧
    ¬ SplitAlike sampleAes sampleSplitter (shortBatch.flatten ++ [9]) ∧
    (∀ m ∈ longBatch, abridged.Complete m) ∧ 2 ≤ longBatch.length ∧
    ¬ SplitAlike sampleAes sampleSplitter (longBatch.flatten ++ []) := by
  have hshort : splitPlainMtprotoMessages (shortBatch.flatten ++ [9]) = .ok shortBatch := by decide
  have hlong : splitPlainMtprotoMessages (longBatch.flatten ++ []) =
      .ok [[0x7f, 1, 0, 0, 5]] := by decide
  refine ⟨by decide, by decide, ?_, by decide, by decide, ?_⟩
  · rintro ⟨parts, parts', next, hparts, -, -, hflat, -⟩
    rw [hshort] at hparts
    obtain rfl := Except.ok.inj hparts
    exact absurd hflat (by decide)
  · rintro ⟨parts, parts', next, hparts, -, -, hflat, -⟩
    rw [hlong] at hparts
    obtain rfl := Except.ok.inj hparts
    exact absurd hflat (by decide)

end TgWsProxy.Guarantees.PlainSplitter
