import TgWsProxy.Source.Ws.Frame

/-!
# Announced lengths and cut frames

`read_frame` turns the announced length into a `usize`, which on a 64-bit target holds
every `u64`, and allocates that many octets: a length above `isize::MAX` stops the program
(`readFrame_never_panics_iff`). The end of the stream is a clean end where the first two
octets are read and a failure everywhere behind, so a frame that is cut behind its first
octet is taken for a clean end (`cut_frame_iff`). Failure of the allocator is not modelled.
-/

set_option autoImplicit false

namespace TgWsProxy.Guarantees.FrameHeaders
open Library Library.Io Source.Ws

/-- The stream starts with a whole header that announces `n` octets. -/
def Announces (stream : Bytes) (n : Nat) : Prop :=
  ∃ h : FrameHeader, h.length = n ∧ h.encode <+: stream

/-- The reader stops the program exactly behind a whole header that announces more than
memory may hold. -/
theorem readFrame_panic_iff (s : Duplex) (why : Panic) :
    (readFrame.run s).1 = .error (.panic why) ↔
      why = .capacityOverflow ∧ ∃ n, Announces s.input n ∧ isizeMax < n := by
  obtain ⟨input, out⟩ := s
  constructor
  · intro hpanic
    rcases readFrame_cases ⟨input, out⟩ with ⟨-, hnone⟩ | ⟨-, hcut⟩ | ⟨h, rest, hinput⟩
    · rw [hnone] at hpanic
      cases hpanic
    · rw [hcut] at hpanic
      cases hpanic
    · dsimp only at hinput
      subst hinput
      rw [readFrame_header] at hpanic
      split at hpanic
      · rename_i hlarge
        have hwhy := Stop.panic.inj (Except.error.inj hpanic)
        exact ⟨hwhy.symm, h.length, ⟨h, rfl, List.prefix_append _ _⟩, hlarge⟩
      · split at hpanic <;> cases hpanic
  · intro ⟨hwhy, n, ⟨h, hlength, rest, hinput⟩, hlarge⟩
    dsimp only at hinput
    rw [← hinput, readFrame_header, if_pos (by omega), hwhy]

/-- No stream is refused for an announced length. -/
theorem readFrame_ne_tooLarge (s : Duplex) :
    (readFrame.run s).1 ≠ .error (.error (.handshake "frame too large")) := by
  obtain ⟨input, out⟩ := s
  intro herror
  rcases readFrame_cases ⟨input, out⟩ with ⟨-, hnone⟩ | ⟨-, hcut⟩ | ⟨h, rest, hinput⟩
  · rw [hnone] at herror
    cases herror
  · rw [hcut] at herror
    cases herror
  · dsimp only at hinput
    subst hinput
    rw [readFrame_header] at herror
    split at herror
    · cases herror
    · split at herror <;> cases herror

/-- The reader never stops the program, and refuses what it cannot hold, exactly on the
streams that announce no length from `2 ^ 63` on. -/
theorem readFrame_never_panics_iff (s : Duplex) :
    ((∀ why, (readFrame.run s).1 ≠ .error (.panic why)) ∧
        ∀ n, Announces s.input n → isizeMax < n →
          (readFrame.run s).1 = .error (.error (.handshake "frame too large"))) ↔
      ∀ n, Announces s.input n → n < 2 ^ 63 := by
  have hmax : isizeMax + 1 = 2 ^ 63 := by decide
  constructor
  · intro hsafe n hann
    by_contra hlarge
    exact hsafe.1 .capacityOverflow ((readFrame_panic_iff s _).mpr ⟨rfl, n, hann, by omega⟩)
  · intro hsmall
    refine ⟨?_, ?_⟩
    · intro why hpanic
      obtain ⟨-, n, hann, hlarge⟩ := (readFrame_panic_iff s why).mp hpanic
      have hlt := hsmall n hann
      omega
    · intro n hann hlarge
      have hlt := hsmall n hann
      omega

/-- An unmasked header that announces `2 ^ 63` octets. -/
def hugeHeader : Bytes := [0x82, 0x7F, 0x80, 0, 0, 0, 0, 0, 0, 0]

/-- The header stops the program, and the refusal of a length is one that no stream meets. -/
theorem huge_length_panics :
    (readFrame.run ⟨hugeHeader, []⟩).1 = .error (.panic .capacityOverflow) ∧
      (¬ ∀ s why, (readFrame.run s).1 ≠ .error (.panic why)) ∧
      ∀ s, (readFrame.run s).1 ≠ .error (.error (.handshake "frame too large")) := by
  have hpanic : (readFrame.run ⟨hugeHeader, []⟩).1 = .error (.panic .capacityOverflow) := by
    decide +kernel
  exact ⟨hpanic, fun h => h _ _ hpanic, readFrame_ne_tooLarge⟩

/-! ## Cut frames -/

theorem readFrame_none_iff (s : Duplex) :
    (readFrame.run s).1 = .ok none ↔ s.input.length < 2 := by
  obtain ⟨input, out⟩ := s
  constructor
  · intro hnone
    rcases readFrame_cases ⟨input, out⟩ with ⟨hshort, -⟩ | ⟨-, hcut⟩ | ⟨h, rest, hinput⟩
    · exact hshort
    · rw [hcut] at hnone
      cases hnone
    · dsimp only at hinput
      subst hinput
      rw [readFrame_header] at hnone
      split at hnone
      · cases hnone
      · split at hnone
        · cases hnone
        · cases Except.ok.inj hnone
  · intro hshort
    rw [readFrame_short input out hshort]

/-- A header in front of a cut frame announces what memory may hold, and more than there is. -/
theorem cut_header (f : WireFrame) (h : FrameHeader) (rest tail out : Bytes) (cut : tail ≠ [])
    (whole : f.encode = h.encode ++ rest ++ tail) :
    h.length ≤ isizeMax ∧ rest.length < h.length := by
  have hframe := readFrame_encode f [] out
  rw [List.append_nil, whole, List.append_assoc, readFrame_header] at hframe
  split at hframe
  · cases (Prod.mk.inj hframe).1
  · rename_i hheld
    refine ⟨by omega, ?_⟩
    split at hframe
    · cases (Prod.mk.inj hframe).1
    · by_contra hlong
      -- the payload would be read in front of the cut, and the rest would stay
      have hleft := congrArg Duplex.input (Prod.mk.inj hframe).2
      dsimp only at hleft
      rw [List.drop_append_of_le_length (by omega)] at hleft
      exact cut (List.append_eq_nil_iff.mp hleft).2

/-- Two octets or more of a frame, but not all of it, are an error. -/
theorem readFrame_cut (f : WireFrame) (p out : Bytes) (cut : p <+: f.encode) (proper : p ≠ f.encode)
    (two : 2 ≤ p.length) :
    readFrame.run ⟨p, out⟩ = (.error (.error (.io .unexpectedEof)), ⟨[], out⟩) := by
  rcases readFrame_cases ⟨p, out⟩ with ⟨hshort, -⟩ | ⟨-, hcut⟩ | ⟨h, rest, hinput⟩
  · dsimp only at hshort
    omega
  · exact hcut
  · dsimp only at hinput
    subst hinput
    obtain ⟨tail, htail⟩ := cut
    have hne : tail ≠ [] := by
      rintro rfl
      exact proper (by rw [← htail, List.append_nil])
    obtain ⟨hheld, hshort⟩ := cut_header f h rest tail out hne htail.symm
    rw [readFrame_header, if_neg (by omega), if_pos hshort]

/-- A proper part of a frame is an error exactly if it has not one octet alone, and a clean end
has no octet exactly on the streams that are not one octet long. -/
theorem cut_frame_iff (s : Duplex) :
    (∀ f : WireFrame, s.input <+: f.encode → s.input ≠ f.encode → s.input ≠ [] →
      ((∃ err, (readFrame.run s).1 = .error (.error err)) ↔ s.input.length ≠ 1)) ∧
    (((readFrame.run s).1 = .ok none → s.input = []) ↔ s.input.length ≠ 1) := by
  obtain ⟨p, out⟩ := s
  dsimp only
  refine ⟨?_, ?_⟩
  · intro f hcut hproper hstarted
    have hpos := List.length_pos_iff.mpr hstarted
    constructor
    · intro ⟨err, herror⟩ hone
      rw [(readFrame_none_iff ⟨p, out⟩).mpr (by dsimp only; omega)] at herror
      cases herror
    · intro hone
      rw [readFrame_cut f p out hcut hproper (by omega)]
      exact ⟨_, rfl⟩
  · rw [readFrame_none_iff]
    constructor
    · intro hclean hone
      have hnil := hclean (by dsimp only; omega)
      simp [hnil] at hone
    · intro hone hshort
      dsimp only at hshort
      exact List.length_eq_zero_iff.mp (by omega)

/-- An unmasked frame with one octet of data. -/
def shortFrame : WireFrame := ⟨0x82, .short, none, [7], by decide, by decide⟩

/-- The first octet of a frame alone is a clean end. -/
theorem first_octet_is_clean_end :
    (readFrame.run ⟨[0x82], []⟩).1 = .ok none ∧
      ¬ ∀ (f : WireFrame) (p out : Bytes), p <+: f.encode → p ≠ f.encode → p ≠ [] →
        ∃ err, (readFrame.run ⟨p, out⟩).1 = .error (.error err) := by
  have hclean : (readFrame.run ⟨[0x82], []⟩).1 = .ok none := by decide
  refine ⟨hclean, ?_⟩
  intro h
  have hcut : [0x82] <+: shortFrame.encode := ⟨[1, 7], by decide⟩
  obtain ⟨err, herror⟩ := h shortFrame [0x82] [] hcut (by decide) (by decide)
  rw [hclean] at herror
  cases herror

end TgWsProxy.Guarantees.FrameHeaders
