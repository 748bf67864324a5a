import TgWsProxy.Source.Telegram.Splitter

/-!
# Where the splitter cuts a client stream

The relay feeds the splitter one read after another. A read may end anywhere,
and the next call parses from its own first octet, so whether the cuts inside a
chunk fall between messages depends on the chunk's first frame only:

* in the abridged transport a chunk is cut between messages exactly when the
  first of two frames that its octets spell ends where a message ends
  (`split_cuts_between_iff`);
* in the two intermediate transports a chunk is parsed with the abridged header
  all the same, and is cut between messages exactly when the message lengths
  add up to what that header announces (`split_intermediate_iff`).
-/

set_option autoImplicit false

namespace TgWsProxy.Guarantees.MessageBoundaries
open Library Source.Telegram Source.Telegram.MtProtoMessageSplitter

/-- A well-formed abridged message: a length octet, or `0x7f` and three, then
that many four-octet words. -/
inductive AbridgedMessage : Bytes → Prop
  | short (len : UInt8) (body : Bytes) (low : 1 ≤ len) (high : len ≤ 0x7e)
      (size : body.length = 4 * len.toNat) : AbridgedMessage (len :: body)
  | long (b1 b2 b3 : UInt8) (body : Bytes) (nonzero : ofLE [b1, b2, b3] ≠ 0)
      (size : body.length = 4 * ofLE [b1, b2, b3]) : AbridgedMessage (0x7f :: b1 :: b2 :: b3 :: body)

theorem AbridgedMessage.complete (m : Bytes) (h : AbridgedMessage m) : abridged.Complete m := by
  refine (abridgedSize_eq_some m m.length).mpr ?_
  cases h with
  | short len body low high size =>
    have hpos : 1 ≤ len.toNat := UInt8.le_iff_toNat_le.mp low
    have hlow : len.toNat ≤ 126 := UInt8.le_iff_toNat_le.mp high
    have hne : len ≠ 0x7f := by
      rintro rfl
      simp at hlow
    refine ⟨1, len.toNat * 4, by rw [abridgedHeader, if_neg hne], by omega, ?_, ?_⟩ <;>
      simp only [List.length_cons] <;> omega
  | long b1 b2 b3 body nonzero size =>
    refine ⟨4, ofLE [b1, b2, b3] * 4, ?_, by omega, ?_, ?_⟩
    · rw [abridgedHeader, if_pos rfl, if_pos (by simp only [List.length_cons]; omega)]
      rfl
    · simp only [List.length_cons]
      omega
    · simp only [List.length_cons]
      omega

/-- The cuts of a call that parsed `plain` are the frame ends strictly inside the chunk,
when there are at least two frames, and none otherwise. -/
theorem mem_cuts_partsOf (plain chunk : Bytes) (hlen : plain.length = chunk.length) (k : Nat) :
    k ∈ cuts (partsOf plain chunk) ↔
      abridged.BeginsWithTwo plain ∧ k ∈ totals ((abridged.frames plain).map List.length) ∧
        k < chunk.length := by
  unfold partsOf
  rw [← abridged.two_le_frames_iff]
  by_cases h1 : ((abridged.frames plain).map List.length).length ≤ 1
  · simp only [if_pos h1, cuts, List.map_cons, List.map_nil, List.dropLast_singleton, totals,
      List.not_mem_nil, false_iff]
    rw [List.length_map] at h1
    omega
  · have hpos : ∀ n ∈ (abridged.frames plain).map List.length, 0 < n := by
      intro n hn
      obtain ⟨f, hf, rfl⟩ := List.mem_map.mp hn
      exact List.length_pos_of_ne_nil (abridged.frames_ne_nil plain f hf)
    have hsum : ((abridged.frames plain).map List.length).sum ≤ chunk.length := by
      rw [← hlen, ← List.length_flatten]
      exact (abridged.frames_flatten_prefix plain).length_le
    simp only [if_neg h1]
    rw [mem_cuts_pieces _ chunk hpos hsum]
    rw [List.length_map] at h1
    constructor
    · intro hcut
      exact ⟨by omega, hcut⟩
    · intro hcut
      obtain ⟨-, hk, hlt⟩ := hcut
      exact ⟨hk, hlt⟩

/-- Two frames at the front of a window leave the end of the first strictly inside it. -/
theorem first_lt_of_two (w : Bytes) (a b : Nat) (hb : abridgedSize (w.drop a) = some b) :
    a < w.length := by
  have hpos := abridged.size_pos hb
  have hle := abridged.size_le hb
  rw [List.length_drop] at hle
  omega

/-! ## The abridged transport -/

/-- The client's stream after the init packet: the messages under its keystream. -/
def clientStream (aes : Aes256) (init : Bytes) (ms : List Bytes) : Bytes :=
  mask (aes (init.extract 8 40) (init.extract 40 56)) 64 ms.flatten

/-- `split` on one chunk after another; the parts of each call. -/
def splitAll (aes : Aes256) :
    MtProtoMessageSplitter → List Bytes → Checked (List (List Bytes))
  | _, [] => .ok []
  | s, chunk :: chunks => do
    let (parts, s') ← split aes s chunk
    let rest ← splitAll aes s' chunks
    return parts :: rest

/-- Every cut inside a chunk, the first of which starts at `o`, lies between two messages. -/
def CutsBetween (ms : List Bytes) : Nat → List (List Bytes) → Prop
  | _, [] => True
  | o, parts :: rest =>
    (∀ k ∈ cuts parts, Between ms (o + k)) ∧ CutsBetween ms (o + parts.flatten.length) rest

/-- The splitter of the packet accepts all chunks and cuts each between messages. -/
def SplitsBetweenMessages (aes : Aes256) (init : Bytes) (ms chunks : List Bytes) : Prop :=
  ∃ s outs, new aes init = some s ∧ splitAll aes s chunks = .ok outs ∧ CutsBetween ms 0 outs

/-- The plaintext window of `n` octets from `o` on either does not begin with two
frames, or the first of them ends where a message does. -/
def FirstFrameInStep (ms : List Bytes) (o n : Nat) : Prop :=
  ∀ a b, abridgedSize ((ms.flatten.drop o).take n) = some a →
    abridgedSize (((ms.flatten.drop o).take n).drop a) = some b → IsBoundary ms (o + a)

/-- One call: its cuts lie between messages exactly when its first frame is in step. -/
theorem cuts_partsOf_iff (ms : List Bytes) (complete : ∀ m ∈ ms, abridged.Complete m)
    (o : Nat) (plain chunk : Bytes) (hplain : plain = (ms.flatten.drop o).take chunk.length)
    (hfit : o + chunk.length ≤ ms.flatten.length) :
    (∀ k ∈ cuts (partsOf plain chunk), Between ms (o + k)) ↔
      FirstFrameInStep ms o chunk.length := by
  have hlen : plain.length = chunk.length := by
    rw [hplain, List.length_take, List.length_drop]
    omega
  have hprefix : plain <+: ms.flatten.drop o := hplain ▸ List.take_prefix _ _
  unfold FirstFrameInStep
  rw [← hplain]
  constructor
  · intro h a b ha hb
    have hlt := first_lt_of_two plain a b hb
    have hmem := abridged.size_mem_totals plain a ha
    obtain ⟨pre, post, heq, -, -, hpre⟩ :=
      h a ((mem_cuts_partsOf plain chunk hlen a).mpr ⟨⟨a, b, ha, hb⟩, hmem, by omega⟩)
    exact ⟨pre, post, heq, hpre⟩
  · intro h k hk
    obtain ⟨⟨a, b, ha, hb⟩, hmem, hlt⟩ := (mem_cuts_partsOf plain chunk hlen k).mp hk
    have hbound := (Framing.ends_on_boundaries_iff complete plain o a hprefix ha).mpr (h a b ha hb) k hmem
    have hpos := abridged.pos_of_mem_totals plain k hmem
    exact (between_iff_isBoundary ms (o + k) (by omega) (by omega)).mpr hbound

/-- The calls on a stream cut into chunks, from the chunk that starts at `o` on. -/
theorem splitAll_cutsBetween_iff (aes : Aes256) (key iv : Bytes) (ms : List Bytes)
    (complete : ∀ m ∈ ms, abridged.Complete m) (chunks : List Bytes) (o : Nat)
    (nonempty : ∀ c ∈ chunks, c ≠ [])
    (sent : chunks.flatten = mask (aes key iv) (64 + o) (ms.flatten.drop o)) :
    ∃ outs, splitAll aes ⟨⟨key, iv, 64 + o⟩⟩ chunks = .ok outs ∧
      (CutsBetween ms o outs ↔ ∀ pre chunk post, chunks = pre ++ chunk :: post →
        FirstFrameInStep ms (o + pre.flatten.length) chunk.length) := by
  induction chunks generalizing o with
  | nil => exact ⟨[], rfl, by simp [CutsBetween]⟩
  | cons chunk chunks ih =>
    rw [List.flatten_cons] at sent
    have hhead : chunk = mask (aes key iv) (64 + o) ((ms.flatten.drop o).take chunk.length) := by
      rw [← mask_take, ← sent, List.take_left]
    have htail : chunks.flatten =
        mask (aes key iv) (64 + (o + chunk.length)) (ms.flatten.drop (o + chunk.length)) := by
      rw [← List.drop_drop, ← Nat.add_assoc, ← mask_drop, ← sent, List.drop_left]
    have hplain : mask (aes key iv) (64 + o) chunk = (ms.flatten.drop o).take chunk.length :=
      (mask_eq_iff _ _ _ _).mpr hhead
    have hne : chunk ≠ [] := nonempty chunk List.mem_cons_self
    have hfit : o + chunk.length ≤ ms.flatten.length := by
      have hpos := List.length_pos_of_ne_nil hne
      have := congrArg List.length sent
      rw [List.length_append, mask_length, List.length_drop] at this
      omega
    obtain ⟨outs, houts, hiff⟩ := ih (o + chunk.length)
      (fun c hc => nonempty c (List.mem_cons_of_mem chunk hc)) htail
    refine ⟨partsOf ((ms.flatten.drop o).take chunk.length) chunk :: outs, ?_, ?_⟩
    · rw [splitAll, split_eq aes _ chunk hne]
      dsimp only [bind, Except.bind]
      rw [Nat.add_assoc, houts, hplain]
      rfl
    · simp only [CutsBetween, partsOf_flatten]
      rw [cuts_partsOf_iff ms complete o _ chunk rfl hfit, hiff]
      constructor
      · intro ⟨hfirst, hrest⟩ pre c post heq
        cases pre with
        | nil =>
          obtain ⟨rfl, -⟩ := List.cons.inj heq
          simpa using hfirst
        | cons p pre =>
          rw [List.cons_append, List.cons.injEq] at heq
          obtain ⟨rfl, heq⟩ := heq
          have h := hrest pre c post heq
          rwa [List.flatten_cons, List.length_append, ← Nat.add_assoc]
      · intro h
        refine ⟨by simpa using h [] chunk chunks rfl, ?_⟩
        intro pre c post heq
        have h' := h (chunk :: pre) c post (by simp [heq])
        rwa [List.flatten_cons, List.length_append, ← Nat.add_assoc] at h'

theorem new_eq (aes : Aes256) (init : Bytes) (h : 64 ≤ init.length) :
    new aes init = some ⟨⟨init.extract 8 40, init.extract 40 56, 64⟩⟩ := by
  simp [new, Nat.not_lt.mpr h, newFromSlices_init init h, Aes256Ctr.applyKeystream]

/-- Every chunking of every abridged stream: all cuts inside chunks lie between
messages exactly when each chunk that spells two frames from its first octet on
ends the first of them where a message ends. -/
theorem split_cuts_between_iff (aes : Aes256) (init : Bytes) (h64 : init.length = 64)
    (ms : List Bytes) (wellFormed : ∀ m ∈ ms, AbridgedMessage m) (chunks : List Bytes)
    (nonempty : ∀ c ∈ chunks, c ≠ []) (sent : chunks.flatten = clientStream aes init ms) :
    SplitsBetweenMessages aes init ms chunks ↔
      ∀ pre chunk post, chunks = pre ++ chunk :: post →
        FirstFrameInStep ms pre.flatten.length chunk.length := by
  obtain ⟨outs, houts, hiff⟩ := splitAll_cutsBetween_iff aes (init.extract 8 40)
    (init.extract 40 56) ms (fun m hm => (wellFormed m hm).complete) chunks 0 nonempty sent
  simp only [Nat.zero_add] at hiff
  rw [← hiff]
  constructor
  · intro ⟨s, outs', hs, houts', hcuts⟩
    rw [new_eq aes init (by omega)] at hs
    obtain rfl := Option.some.inj hs
    rw [houts] at houts'
    obtain rfl := Except.ok.inj houts'
    exact hcuts
  · intro hcuts
    exact ⟨_, outs, new_eq aes init (by omega), houts, hcuts⟩

/-- Messages of one, two and one words. -/
def threeMessages : List Bytes := [[1, 9, 9, 9, 9], 2 :: List.replicate 8 7, [1, 5, 6, 7, 8]]

theorem threeMessages_wellFormed : ∀ m ∈ threeMessages, AbridgedMessage m := by
  simp only [threeMessages, List.forall_mem_cons]
  exact ⟨.short 1 _ (by decide) (by decide) (by decide), .short 2 _ (by decide) (by decide) (by decide),
    .short 1 _ (by decide) (by decide) (by decide), by simp⟩

/-- The first read takes two messages and the length octet of the third. -/
def twoReads : List Bytes :=
  [(clientStream sampleAes (sampleInit [0xEF, 0xEF, 0xEF, 0xEF]) threeMessages).take 15,
    (clientStream sampleAes (sampleInit [0xEF, 0xEF, 0xEF, 0xEF]) threeMessages).drop 15]

theorem twoReads_inStep (pre : List Bytes) (chunk : Bytes) (post : List Bytes)
    (heq : twoReads = pre ++ chunk :: post) :
    FirstFrameInStep threeMessages pre.flatten.length chunk.length := by
  intro a b ha hb
  cases pre with
  | nil =>
    obtain ⟨rfl, -⟩ := List.cons.inj heq
    have hfirst : abridgedSize ((threeMessages.flatten.drop 0).take 15) = some 5 := by decide
    obtain rfl := Option.some.inj (hfirst.symm.trans ha)
    exact ⟨[[1, 9, 9, 9, 9]], threeMessages.tail, rfl, rfl⟩
  | cons first pre =>
    obtain ⟨rfl, hrest⟩ := List.cons.inj heq
    cases pre with
    | nil =>
      obtain ⟨rfl, -⟩ := List.cons.inj hrest
      -- the body of the third message spells no whole frame
      have hnone : abridgedSize ((threeMessages.flatten.drop 15).take 4) = none := by decide
      cases hnone.symm.trans ha
    | cons second pre =>
      have hlength := congrArg List.length (List.cons.inj hrest).2
      simp at hlength

theorem split_cuts_between_iff_two_reads :
    SplitsBetweenMessages sampleAes (sampleInit [0xEF, 0xEF, 0xEF, 0xEF]) threeMessages twoReads :=
  (split_cuts_between_iff sampleAes _ (by decide) _ threeMessages_wellFormed twoReads (by decide)
    (by decide)).mpr twoReads_inStep

def sampleMessage : Bytes := 3 :: [1, 0, 0, 0, 0, 1, 0, 0, 0, 0, 0, 0]

/-- The message arrives in two reads: its length octet, then its body. -/
def sampleChunks : List Bytes :=
  [mask (sampleAes sampleKey sampleIv) 64 [3],
   mask (sampleAes sampleKey sampleIv) 65 [1, 0, 0, 0, 0, 1, 0, 0, 0, 0, 0, 0]]

theorem sampleMessage_wellFormed : ∀ m ∈ [sampleMessage], AbridgedMessage m := by
  intro m hm
  rw [List.mem_singleton.mp hm]
  exact .short 3 _ (by decide) (by decide) (by decide)

/-- A message cut after its length octet: the body, parsed on its own, spells
two frames, and the chunk is cut inside the message. -/
theorem split_cuts_inside_message :
    (sampleInit [0xEF, 0xEF, 0xEF, 0xEF]).length = 64 ∧
    headerProto (initHeader sampleAes (sampleInit [0xEF, 0xEF, 0xEF, 0xEF])) = 0xEFEFEFEF ∧
    (∀ m ∈ [sampleMessage], AbridgedMessage m) ∧ (∀ c ∈ sampleChunks, c ≠ []) ∧
    sampleChunks.flatten =
      clientStream sampleAes (sampleInit [0xEF, 0xEF, 0xEF, 0xEF]) [sampleMessage] ∧
    ¬ SplitsBetweenMessages sampleAes (sampleInit [0xEF, 0xEF, 0xEF, 0xEF]) [sampleMessage]
      sampleChunks := by
  refine ⟨by decide, by decide, sampleMessage_wellFormed, by decide, by decide, ?_⟩
  intro ⟨s, outs, hs, houts, hcuts⟩
  have hnew : new sampleAes (sampleInit [0xEF, 0xEF, 0xEF, 0xEF]) =
      some ⟨⟨sampleKey, sampleIv, 64⟩⟩ := by decide
  rw [hnew] at hs
  obtain rfl := Option.some.inj hs
  -- the second read is cut after 5 and 10 of its octets, and the message has no inside boundary
  have hrun : (splitAll sampleAes ⟨⟨sampleKey, sampleIv, 64⟩⟩ sampleChunks).map (List.map cuts) =
      .ok [[], [5, 10]] := by decide
  rw [houts] at hrun
  obtain ⟨first, rest, rfl, -, hrest⟩ := List.map_eq_cons_iff.mp (Except.ok.inj hrun)
  obtain ⟨second, _, rfl, hsecond, -⟩ := List.map_eq_cons_iff.mp hrest
  have hcut := hcuts.2.1 5 (by simp [hsecond])
  rw [between_iff_mem_cuts] at hcut
  simp [cuts, totals] at hcut

/-! ## The intermediate transports -/

/-- A message of the intermediate and padded intermediate framings: four length
octets, low octet first, then that many octets. -/
def intermediateMessage (body : Bytes) : Bytes := toLE 4 body.length ++ body

/-- Octets of the frame that the abridged header reads off a message of `n` body
octets; zero when it reads none. -/
def misreadSize (n : Nat) : Nat :=
  if n % 256 = 0x7f then (if n / 256 = 0 then 0 else 4 + 4 * (n / 256))
  else if n % 256 = 0 then 0 else 1 + 4 * (n % 256)

/-- Octets on the wire of messages with these body lengths. -/
def wireSize (ns : List Nat) : Nat := (ns.map (4 + ·)).sum

/-- The messages fall into groups of exactly the octets that the abridged header
reads off the first of each, until it reads no complete frame. -/
inductive InStep : List Nat → Prop
  | done : InStep []
  | stop (n : Nat) (ns : List Nat) (none : misreadSize n = 0 ∨ wireSize (n :: ns) < misreadSize n) :
      InStep (n :: ns)
  | group (n : Nat) (g rest : List Nat) (exact : wireSize (n :: g) = misreadSize n)
      (inStep : InStep rest) : InStep (n :: g ++ rest)

theorem wireSize_lengths (bodies : List Bytes) :
    (bodies.map intermediateMessage).flatten.length = wireSize (bodies.map List.length) := by
  induction bodies with
  | nil => rfl
  | cons b bodies ih =>
    simp only [List.map_cons, List.flatten_cons, List.length_append, ih, wireSize, List.sum_cons,
      intermediateMessage, toLE_length]

/-- The abridged header looks at the length octets only. -/
theorem abridgedSize_intermediate (body rest : Bytes) (h : body.length < 2 ^ 32) :
    abridgedSize (intermediateMessage body ++ rest) =
      if misreadSize body.length = 0 ∨
          (intermediateMessage body ++ rest).length < misreadSize body.length then none
      else some (misreadSize body.length) := by
  have hlen : (intermediateMessage body ++ rest).length = 4 + body.length + rest.length := by
    simp [intermediateMessage, Nat.add_assoc]
  have hcons : intermediateMessage body ++ rest =
      UInt8.ofNat body.length :: (toLE 3 (body.length / 256) ++ (body ++ rest)) := by
    simp [intermediateMessage, toLE]
  have hfirst : (UInt8.ofNat body.length).toNat = body.length % 256 := by simp
  have hhigh : ofLE ((toLE 3 (body.length / 256) ++ (body ++ rest)).take 3) = body.length / 256 := by
    rw [List.take_append_of_le_length (by simp), List.take_of_length_le (by simp),
      ofLE_toLE 3 _ (by omega)]
  have hiff : UInt8.ofNat body.length = 0x7f ↔ body.length % 256 = 0x7f := by
    rw [← UInt8.toNat_inj, hfirst]
    rfl
  unfold abridgedSize misreadSize
  rw [hlen, hcons, abridgedHeader]
  by_cases h7f : body.length % 256 = 0x7f
  · rw [if_pos (hiff.mpr h7f), if_pos (by simp), hhigh, if_pos h7f]
    dsimp only
    split <;> split <;> split <;> first | rfl | omega | (congr 1; omega)
  · rw [if_neg (fun h => h7f (hiff.mp h)), hfirst, if_neg h7f]
    dsimp only
    split <;> split <;> split <;> first | rfl | omega | (congr 1; omega)

/-- A first frame that ends after the messages of `g`: the boundaries met from
there on are those of the other messages. -/
theorem totals_frames_group (g rest : List Bytes)
    (size : abridgedSize ((g ++ rest).map intermediateMessage).flatten =
      some (g.map intermediateMessage).flatten.length) :
    (∀ e ∈ totals ((abridged.frames ((g ++ rest).map intermediateMessage).flatten).map List.length),
        IsBoundary ((g ++ rest).map intermediateMessage) e) ↔
      ∀ e ∈ totals ((abridged.frames (rest.map intermediateMessage).flatten).map List.length),
        IsBoundary (rest.map intermediateMessage) e := by
  have hle := abridged.size_le size
  rw [abridged.frames_of_some _ _ size]
  simp only [List.map_append, List.flatten_append] at hle ⊢
  simp only [List.drop_left, List.take_left, List.map_cons, totals, List.mem_cons, List.mem_map]
  constructor
  · intro h e he
    exact (isBoundary_append_iff _ _ e).mp (h _ (Or.inr ⟨e, he, rfl⟩))
  · rintro h e (rfl | ⟨j, hj, rfl⟩)
    · exact ⟨_, _, rfl, rfl⟩
    · exact (isBoundary_append_iff _ _ j).mpr (h j hj)

theorem abridgedSize_messages (b : Bytes) (rest : List Bytes)
    (fits : ∀ c ∈ b :: rest, c.length < 2 ^ 32) :
    abridgedSize ((b :: rest).map intermediateMessage).flatten =
      if misreadSize b.length = 0 ∨ wireSize ((b :: rest).map List.length) < misreadSize b.length
      then none else some (misreadSize b.length) := by
  rw [← wireSize_lengths, List.map_cons, List.flatten_cons]
  exact abridgedSize_intermediate b _ (fits b List.mem_cons_self)

theorem inStep_of_boundaries (bodies : List Bytes) (fits : ∀ b ∈ bodies, b.length < 2 ^ 32) :
    (∀ e ∈ totals ((abridged.frames (bodies.map intermediateMessage).flatten).map List.length),
      IsBoundary (bodies.map intermediateMessage) e) → InStep (bodies.map List.length) := by
  induction hn : bodies.length using Nat.strongRecOn generalizing bodies with
  | ind len ih =>
    intro h
    cases bodies with
    | nil => exact .done
    | cons b bodies =>
      have hfirst := abridgedSize_messages b bodies fits
      by_cases hstop : misreadSize b.length = 0 ∨
          wireSize ((b :: bodies).map List.length) < misreadSize b.length
      · exact .stop _ _ hstop
      rw [if_neg hstop] at hfirst
      have hmem := abridged.size_mem_totals _ _ hfirst
      -- the end of the first frame splits the messages into its group and the others
      obtain ⟨pre, post, heq, hpre⟩ := h _ hmem
      obtain ⟨g, rest, hg, rfl, rfl⟩ := List.map_eq_append_iff.mp heq
      cases g with
      | nil =>
        have hpos := abridged.size_pos hfirst
        simp only [List.map_nil, List.flatten_nil, List.length_nil] at hpre
        omega
      | cons b' g =>
        rw [List.cons_append, List.cons.injEq] at hg
        obtain ⟨rfl, rfl⟩ := hg
        rw [← hpre] at hfirst
        have hrest := (totals_frames_group (b :: g) rest hfirst).mp h
        rw [List.map_cons, List.map_append]
        refine .group b.length (g.map List.length) (rest.map List.length) ?_ ?_
        · rw [← hpre, wireSize_lengths, List.map_cons]
        · refine ih rest.length ?_ rest (fun c hc => fits c (by simp [hc])) rfl hrest
          rw [← hn]
          simp only [List.length_cons, List.length_append]
          omega

theorem boundaries_of_inStep (bodies : List Bytes) (fits : ∀ b ∈ bodies, b.length < 2 ^ 32)
    (h : InStep (bodies.map List.length)) :
    ∀ e ∈ totals ((abridged.frames (bodies.map intermediateMessage).flatten).map List.length),
      IsBoundary (bodies.map intermediateMessage) e := by
  generalize hns : bodies.map List.length = ns at h
  induction h generalizing bodies with
  | done =>
    obtain rfl := List.map_eq_nil_iff.mp hns
    simp [abridged.frames_of_none [] abridged.size_nil, totals]
  | stop n ns hstop =>
    obtain ⟨b, rest, rfl, rfl, rfl⟩ := List.map_eq_cons_iff.mp hns
    have hnone := abridgedSize_messages b rest fits
    rw [if_pos (show _ ∨ wireSize ((b :: rest).map List.length) < _ from hstop)] at hnone
    rw [abridged.frames_of_none _ hnone]
    simp [totals]
  | group n g rest exact inStep ih =>
    obtain ⟨pre, post, rfl, hpre, rfl⟩ := List.map_eq_append_iff.mp hns
    obtain ⟨b, g', rfl, rfl, rfl⟩ := List.map_eq_cons_iff.mp hpre
    have hfirst := abridgedSize_messages b (g' ++ post) fits
    have hwire : misreadSize b.length = ((b :: g').map intermediateMessage).flatten.length := by
      rw [wireSize_lengths, List.map_cons, exact]
    have hlt : ¬ (misreadSize b.length = 0 ∨
        wireSize ((b :: (g' ++ post)).map List.length) < misreadSize b.length) := by
      have hle : misreadSize b.length ≤ wireSize ((b :: (g' ++ post)).map List.length) := by
        rw [← exact]
        simp [wireSize]
      have hpos : 4 ≤ misreadSize b.length := by
        rw [← exact]
        simp only [wireSize, List.map_cons, List.sum_cons]
        omega
      omega
    rw [if_neg hlt, hwire] at hfirst
    exact (totals_frames_group (b :: g') post hfirst).mpr
      (ih post (fun c hc => fits c (by simp [hc])) rfl)

/-- Reading an intermediate stream with the abridged header stays on message
boundaries exactly when the lengths are in step. -/
theorem frames_on_boundaries_iff (bodies : List Bytes) (fits : ∀ b ∈ bodies, b.length < 2 ^ 32) :
    (∀ e ∈ totals ((abridged.frames (bodies.map intermediateMessage).flatten).map List.length),
      IsBoundary (bodies.map intermediateMessage) e) ↔ InStep (bodies.map List.length) := by
  constructor
  · exact inStep_of_boundaries bodies fits
  · exact boundaries_of_inStep bodies fits

/-- One call of a splitter in any state, on the encryption of intermediate
messages: its cuts lie between messages exactly when the messages do not spell
two abridged frames, or their lengths are in step with the abridged header. -/
theorem split_intermediate_iff (aes : Aes256) (s : MtProtoMessageSplitter) (bodies : List Bytes)
    (fits : ∀ b ∈ bodies, b.length < 2 ^ 32) :
    (∃ parts s', split aes s (mask (aes s.cipher.key s.cipher.iv) s.cipher.pos
          (bodies.map intermediateMessage).flatten) = .ok (parts, s') ∧
        ∀ k ∈ cuts parts, Between (bodies.map intermediateMessage) k) ↔
      (abridged.BeginsWithTwo (bodies.map intermediateMessage).flatten →
        InStep (bodies.map List.length)) := by
  set ms := bodies.map intermediateMessage with hms
  set chunk := mask (aes s.cipher.key s.cipher.iv) s.cipher.pos ms.flatten with hchunk
  have hlen : ms.flatten.length = chunk.length := (mask_length _ _ _).symm
  by_cases hnil : bodies = []
  · subst hnil
    have hstep : InStep [] := .done
    simp [hms, hchunk, split, cuts, totals, hstep]
  have hne : chunk ≠ [] := by
    intro h
    obtain ⟨b, rest, rfl⟩ := List.exists_cons_of_ne_nil hnil
    have hzero : ms.flatten.length = 0 := by rw [hlen, h]; rfl
    simp [hms, intermediateMessage] at hzero
  have hsplit := split_eq aes s chunk hne
  rw [hchunk, mask_mask, ← hchunk] at hsplit
  rw [← frames_on_boundaries_iff bodies fits, ← hms]
  constructor
  · intro hcut htwo e he
    obtain ⟨parts, s', hs, hcuts⟩ := hcut
    rw [hsplit] at hs
    obtain ⟨rfl, -⟩ := Prod.mk.inj (Except.ok.inj hs)
    by_cases hlt : e < chunk.length
    · obtain ⟨pre, post, heq, -, -, hpre⟩ :=
        hcuts e ((mem_cuts_partsOf _ chunk hlen e).mpr ⟨htwo, he, hlt⟩)
      exact ⟨pre, post, heq, hpre⟩
    · have hle := le_sum_of_mem_totals _ e he
      have hpre := (abridged.frames_flatten_prefix ms.flatten).length_le
      rw [List.length_flatten] at hpre
      obtain rfl : e = ms.flatten.length := by omega
      exact isBoundary_end ms
  · intro h
    refine ⟨_, _, hsplit, ?_⟩
    intro k hk
    obtain ⟨htwo, hmem, hlt⟩ := (mem_cuts_partsOf _ chunk hlen k).mp hk
    have hpos := abridged.pos_of_mem_totals _ k hmem
    exact (between_iff_isBoundary ms k hpos (by omega)).mpr (h htwo k hmem)

def sampleBodies : List Bytes := [[0, 0, 0, 0], [0, 0, 0, 0, 0, 1, 0, 0, 0, 0, 0, 0]]

theorem split_intermediate_iff_sample :
    (∃ parts s', split sampleAes ⟨⟨sampleKey, sampleIv, 64⟩⟩ (mask (sampleAes sampleKey sampleIv) 64
          (sampleBodies.map intermediateMessage).flatten) = .ok (parts, s') ∧
        ∀ k ∈ cuts parts, Between (sampleBodies.map intermediateMessage) k) ↔
      (abridged.BeginsWithTwo (sampleBodies.map intermediateMessage).flatten →
        InStep (sampleBodies.map List.length)) :=
  split_intermediate_iff sampleAes ⟨⟨sampleKey, sampleIv, 64⟩⟩ sampleBodies (by decide)

/-- An intermediate packet and one aligned chunk of messages of 4 and 12 body
octets: the splitter cuts at 17 and 22, both inside the second message. -/
theorem split_cuts_inside_intermediate_message :
    (sampleInit [0xEE, 0xEE, 0xEE, 0xEE]).length = 64 ∧
    headerProto (initHeader sampleAes (sampleInit [0xEE, 0xEE, 0xEE, 0xEE])) = 0xEEEEEEEE ∧
    new sampleAes (sampleInit [0xEE, 0xEE, 0xEE, 0xEE]) = some ⟨⟨sampleKey, sampleIv, 64⟩⟩ ∧
    ¬ ∃ parts s', split sampleAes ⟨⟨sampleKey, sampleIv, 64⟩⟩ (mask (sampleAes sampleKey sampleIv) 64
          (sampleBodies.map intermediateMessage).flatten) = .ok (parts, s') ∧
        ∀ k ∈ cuts parts, Between (sampleBodies.map intermediateMessage) k := by
  refine ⟨by decide, by decide, by decide, ?_⟩
  intro ⟨parts, s', hsplit, hcuts⟩
  have hrun : (split sampleAes ⟨⟨sampleKey, sampleIv, 64⟩⟩ (mask (sampleAes sampleKey sampleIv) 64
      (sampleBodies.map intermediateMessage).flatten)).map (fun r => cuts r.1) = .ok [17, 22] := by
    decide
  rw [hsplit] at hrun
  have hcut := hcuts 17 (by simp [Except.ok.inj hrun])
  rw [between_iff_mem_cuts] at hcut
  exact absurd hcut (by decide)

end TgWsProxy.Guarantees.MessageBoundaries
