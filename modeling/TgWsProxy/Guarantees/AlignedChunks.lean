import TgWsProxy.Guarantees.MessageBoundaries

/-!
# Chunks that start with a message

A chunk of complete abridged messages under the running keystream comes back as these
messages, one part each, and the cipher moves on by the chunk. The beginning of a further
message becomes a last part, unless a single message stands in front of it: then the chunk
stays whole (`split_aligned`).
-/

set_option autoImplicit false

namespace TgWsProxy.Guarantees.AlignedChunks
open Library Source.Telegram Source.Telegram.MtProtoMessageSplitter MessageBoundaries

/-- The plaintext of a chunk: complete messages, then a proper part of one more, or nothing. -/
structure AlignedChunk where
  messages : List Bytes
  tail : Bytes
  nonempty : messages ≠ []
  wellFormed : ∀ m ∈ messages, AbridgedMessage m
  cutTail : ∃ m, AbridgedMessage m ∧ tail <+: m ∧ tail ≠ m

namespace AlignedChunk

def plain (c : AlignedChunk) : Bytes := c.messages.flatten ++ c.tail

end AlignedChunk

/-- Blocks encrypted one after another, each at the position behind the block before it. -/
def encryptAll (ks : Keystream) : Nat → List Bytes → List Bytes
  | _, [] => []
  | pos, block :: blocks => mask ks pos block :: encryptAll ks (pos + block.length) blocks

/-- What a call returns for a chunk that is encrypted from `pos` on. -/
def expectedParts (ks : Keystream) (pos : Nat) (c : AlignedChunk) : List Bytes :=
  if c.tail = [] then encryptAll ks pos c.messages
  else if 2 ≤ c.messages.length then encryptAll ks pos (c.messages ++ [c.tail])
  else [mask ks pos c.plain]

/-- The parts of one call after another. -/
def expectedCalls (ks : Keystream) : Nat → List AlignedChunk → List (List Bytes)
  | _, [] => []
  | pos, c :: cs => expectedParts ks pos c :: expectedCalls ks (pos + c.plain.length) cs

/-- `split` on one chunk after another: the parts and the cipher position of each call. -/
def splitCalls (aes : Aes256) : MtProtoMessageSplitter → List Bytes → Checked (List (List Bytes × Nat))
  | _, [] => .ok []
  | s, chunk :: chunks => do
    let (parts, next) ← split aes s chunk
    let rest ← splitCalls aes next chunks
    return (parts, next.cipher.pos) :: rest

theorem AlignedChunk.frames_plain (c : AlignedChunk) : abridged.frames c.plain = c.messages := by
  obtain ⟨m, hm, hpart, hproper⟩ := c.cutTail
  rw [plain, abridged.frames_flatten_append c.messages c.tail fun m hm => (c.wellFormed m hm).complete,
    abridged.frames_of_proper_prefix m c.tail hm.complete hpart hproper, List.append_nil]

theorem AbridgedMessage.ne_nil (m : Bytes) (h : AbridgedMessage m) : m ≠ [] := by
  cases h <;> simp

theorem AlignedChunk.plain_ne_nil (c : AlignedChunk) : c.plain ≠ [] := by
  obtain ⟨m, ms, hms⟩ := List.exists_cons_of_ne_nil c.nonempty
  have hm := AbridgedMessage.ne_nil m (c.wellFormed m (by simp [hms]))
  simp [plain, hms, hm]

/-- The encryption of a concatenation falls into pieces of the blocks' lengths. -/
theorem pieces_mask (ks : Keystream) (pos : Nat) (blocks : List Bytes) (tail : Bytes) :
    pieces (blocks.map List.length) (mask ks pos (blocks.flatten ++ tail)) =
      encryptAll ks pos blocks ++
        (if tail = [] then [] else [mask ks (pos + blocks.flatten.length) tail]) := by
  induction blocks generalizing pos with
  | nil =>
    cases tail with
    | nil => rfl
    | cons b tail => simp [pieces, encryptAll, mask]
  | cons block blocks ih =>
    have htake : (mask ks pos ((block :: blocks).flatten ++ tail)).take block.length =
        mask ks pos block := by
      rw [mask_take, List.flatten_cons, List.append_assoc, List.take_left]
    have hdrop : (mask ks pos ((block :: blocks).flatten ++ tail)).drop block.length =
        mask ks (pos + block.length) (blocks.flatten ++ tail) := by
      rw [mask_drop, List.flatten_cons, List.append_assoc, List.drop_left]
    rw [List.map_cons, pieces, htake, hdrop, ih, encryptAll, List.flatten_cons, List.length_append,
      Nat.add_assoc, List.cons_append]

theorem encryptAll_snoc (ks : Keystream) (pos : Nat) (blocks : List Bytes) (last : Bytes) :
    encryptAll ks pos (blocks ++ [last]) =
      encryptAll ks pos blocks ++ [mask ks (pos + blocks.flatten.length) last] := by
  induction blocks generalizing pos with
  | nil => rfl
  | cons block blocks ih =>
    rw [List.cons_append, encryptAll, ih, encryptAll, List.flatten_cons, List.length_append,
      Nat.add_assoc, List.cons_append]

/-- The parts of an aligned chunk. -/
theorem partsOf_aligned (ks : Keystream) (pos : Nat) (c : AlignedChunk) :
    partsOf c.plain (mask ks pos c.plain) = expectedParts ks pos c := by
  have hpos : 0 < c.messages.length := List.length_pos_of_ne_nil c.nonempty
  unfold partsOf expectedParts
  rw [c.frames_plain]
  dsimp only
  rw [List.length_map]
  by_cases hone : c.messages.length ≤ 1
  · rw [if_pos hone]
    by_cases htail : c.tail = []
    · obtain ⟨m, hm⟩ := List.length_eq_one_iff.mp (show c.messages.length = 1 by omega)
      simp [htail, hm, AlignedChunk.plain, encryptAll]
    · rw [if_neg htail, if_neg (by omega)]
  · rw [if_neg hone, AlignedChunk.plain, pieces_mask]
    by_cases htail : c.tail = []
    · rw [if_pos htail, if_pos htail, List.append_nil]
    · rw [if_neg htail, if_neg htail, if_pos (by omega), encryptAll_snoc]

theorem splitCalls_aligned (aes : Aes256) (key iv : Bytes) (calls : List AlignedChunk) (pos : Nat) :
    ∃ outs, splitCalls aes ⟨⟨key, iv, pos⟩⟩
        (encryptAll (aes key iv) pos (calls.map AlignedChunk.plain)) = .ok outs ∧
      outs.map Prod.fst = expectedCalls (aes key iv) pos calls ∧
      outs.map Prod.snd = (totals (calls.map fun c => c.plain.length)).map (pos + ·) := by
  induction calls generalizing pos with
  | nil => exact ⟨[], rfl, rfl, rfl⟩
  | cons c calls ih =>
    have hne : mask (aes key iv) pos c.plain ≠ [] := by
      rw [← List.length_pos_iff, mask_length, List.length_pos_iff]
      exact c.plain_ne_nil
    obtain ⟨outs, houts, hparts, hpositions⟩ := ih (pos + c.plain.length)
    refine ⟨(expectedParts (aes key iv) pos c, pos + c.plain.length) :: outs, ?_, ?_, ?_⟩
    · rw [List.map_cons, encryptAll, splitCalls, split_eq aes _ _ hne]
      simp only [bind, Except.bind, mask_mask, mask_length, partsOf_aligned, houts]
      rfl
    · rw [List.map_cons, hparts, expectedCalls]
    · rw [List.map_cons, hpositions, List.map_cons, totals, List.map_cons, List.map_map]
      simp only [Function.comp_def, Nat.add_assoc]

/-- Any number of calls on aligned chunks, encrypted one after another behind the init packet:
each returns its encrypted messages, and the cipher is behind the packet and all octets fed so
far. A chunk with a beginning of one more message, such as the last one fed, returns that as
well if there are two messages or more, and is returned whole if there is one. -/
theorem split_aligned (aes : Aes256) (init : Bytes) (h64 : 64 ≤ init.length)
    (calls : List AlignedChunk) :
    ∃ s outs, new aes init = some s ∧
      splitCalls aes s (encryptAll (aes (init.extract 8 40) (init.extract 40 56)) 64
        (calls.map AlignedChunk.plain)) = .ok outs ∧
      outs.map Prod.fst = expectedCalls (aes (init.extract 8 40) (init.extract 40 56)) 64 calls ∧
      outs.map Prod.snd = (totals (calls.map fun c => c.plain.length)).map (64 + ·) := by
  obtain ⟨outs, houts, hparts, hpositions⟩ := splitCalls_aligned aes _ _ calls 64
  exact ⟨_, outs, new_eq aes init h64, houts, hparts, hpositions⟩

/-- Two messages of one word each, and the first two octets of a third one. -/
def sampleChunk : AlignedChunk where
  messages := [[1, 5, 6, 7, 8], [0x7f, 1, 0, 0, 9, 9, 9, 9]]
  tail := [2, 3]
  nonempty := by decide
  wellFormed := by
    intro m hm
    simp only [List.mem_cons, List.not_mem_nil, or_false] at hm
    rcases hm with rfl | rfl
    · exact .short 1 _ (by decide) (by decide) (by decide)
    · exact .long 1 0 0 _ (by decide) (by decide)
  cutTail :=
    ⟨2 :: [3, 0, 0, 0, 0, 0, 0, 0], .short 2 _ (by decide) (by decide) (by decide),
      ⟨[0, 0, 0, 0, 0, 0, 0], rfl⟩, by decide⟩

theorem split_aligned_sample :
    ∃ s outs, new sampleAes (sampleInit [0xEF, 0xEF, 0xEF, 0xEF]) = some s ∧
      splitCalls sampleAes s (encryptAll
        (sampleAes ((sampleInit [0xEF, 0xEF, 0xEF, 0xEF]).extract 8 40)
          ((sampleInit [0xEF, 0xEF, 0xEF, 0xEF]).extract 40 56)) 64
        ([sampleChunk].map AlignedChunk.plain)) = .ok outs ∧
      outs.map Prod.fst = expectedCalls
        (sampleAes ((sampleInit [0xEF, 0xEF, 0xEF, 0xEF]).extract 8 40)
          ((sampleInit [0xEF, 0xEF, 0xEF, 0xEF]).extract 40 56)) 64 [sampleChunk] ∧
      outs.map Prod.snd = (totals ([sampleChunk].map fun c => c.plain.length)).map (64 + ·) :=
  split_aligned sampleAes (sampleInit [0xEF, 0xEF, 0xEF, 0xEF]) (by decide) [sampleChunk]

end TgWsProxy.Guarantees.AlignedChunks
