import Mathlib.Data.List.DropRight

/-!
# Tokens between separators

A text cut at its separators, each piece stripped of the blanks at its ends, and the empty
pieces dropped (`tokens`). The tokens of a text are the entries that it is a way of writing
down (`tokens_eq_iff`): entries in order, a separator between any two of them, and any
number of further blanks and separators around them.
-/

set_option autoImplicit false

namespace TgWsProxy.Library.Tokens

variable {α : Type*} (sep blank : α → Bool)

/-- A text without the blanks at its ends. -/
def strip (text : List α) : List α := (text.dropWhile blank).rdropWhile blank

def tokens (text : List α) : List (List α) :=
  ((text.splitOnP sep).map (strip blank)).filter fun entry => !entry.isEmpty

/-- An entry that stands for itself wherever it is written. -/
structure IsToken (entry : List α) : Prop where
  nonempty : entry ≠ []
  whole : ∀ c ∈ entry, sep c = false
  starts : ∀ c ∈ entry.head?, blank c = false
  ends : ∀ c ∈ entry.getLast?, blank c = false

/-- What may stand around an entry. -/
def IsGap (gap : List α) : Prop := ∀ c ∈ gap, blank c = true ∨ sep c = true

/-- The ways to write entries down. -/
inductive Written : List (List α) → List α → Prop
  | blank (gap : List α) (hgap : IsGap sep blank gap) : Written [] gap
  | last (lead entry trail : List α) (hlead : IsGap sep blank lead)
      (htrail : IsGap sep blank trail) : Written [entry] (lead ++ entry ++ trail)
  | cons (lead entry gap : List α) (c : α) (entries : List (List α)) (text : List α)
      (hlead : IsGap sep blank lead) (hgap : IsGap sep blank gap) (hc : sep c = true)
      (rest : Written entries text) :
      Written (entry :: entries) (lead ++ entry ++ gap ++ c :: text)

/-! ## Stripping -/

variable {sep blank}

theorem strip_cons (c : α) (text : List α) (hc : blank c = true) :
    strip blank (c :: text) = strip blank text := by
  rw [strip, List.dropWhile_cons_of_pos hc, strip]

theorem strip_concat (text : List α) (c : α) (hc : blank c = true) :
    strip blank (text ++ [c]) = strip blank text := by
  unfold strip
  rw [List.dropWhile_append]
  split
  · rename_i hall
    rw [List.isEmpty_iff.mp hall, List.dropWhile_cons_of_pos hc]
    rfl
  · rw [List.rdropWhile_concat_pos _ _ _ hc]

theorem strip_eq_nil_iff (text : List α) : strip blank text = [] ↔ ∀ c ∈ text, blank c = true := by
  unfold strip
  rw [List.rdropWhile_eq_nil_iff]
  constructor
  · intro hall
    rw [← List.dropWhile_eq_nil_iff]
    cases hrest : text.dropWhile blank with
    | nil => rfl
    | cons c rest =>
      have hhead := List.head?_dropWhile_not blank text
      rw [hrest] at hhead hall
      simp [hall c List.mem_cons_self] at hhead
  · intro hall c hc
    exact hall c ((List.dropWhile_suffix blank).subset hc)

variable (blank) in
/-- What is stripped off. -/
theorem strip_parts (text : List α) : ∃ lead trail, text = lead ++ strip blank text ++ trail ∧
    (∀ c ∈ lead, blank c = true) ∧ ∀ c ∈ trail, blank c = true := by
  refine ⟨text.takeWhile blank, (text.dropWhile blank).rtakeWhile blank, ?_, ?_, ?_⟩
  · rw [strip, List.append_assoc, List.rdropWhile_append_rtakeWhile, List.takeWhile_append_dropWhile]
  · exact fun c hc => List.mem_takeWhile_imp hc
  · exact fun c hc => List.mem_rtakeWhile_imp hc

theorem strip_starts (text : List α) : ∀ c ∈ (strip blank text).head?, blank c = false := by
  intro c hc
  obtain ⟨rest, hrest⟩ := List.rdropWhile_prefix blank (text.dropWhile blank)
  have hhead : (text.dropWhile blank).head? = some c := by
    rw [strip, Option.mem_def] at hc
    rw [← hrest, List.head?_append, hc]
    rfl
  have hnot := List.head?_dropWhile_not blank text
  rw [hhead] at hnot
  simpa using hnot

theorem strip_ends (text : List α) : ∀ c ∈ (strip blank text).getLast?, blank c = false := by
  intro c hc
  obtain ⟨hne, rfl⟩ := List.mem_getLast?_eq_getLast hc
  exact Bool.eq_false_iff.mpr (List.rdropWhile_last_not blank (text.dropWhile blank) hne)

theorem strip_eq_self (entry : List α) (starts : ∀ c ∈ entry.head?, blank c = false)
    (ends : ∀ c ∈ entry.getLast?, blank c = false) : strip blank entry = entry := by
  cases entry with
  | nil => rfl
  | cons c rest =>
    have hc := starts c rfl
    rw [strip, List.dropWhile_cons_of_neg (by simp [hc]), List.rdropWhile_eq_self_iff]
    intro hne
    simp [ends _ (List.getLast?_eq_some_getLast hne)]

/-! ## The tokens of a text put together -/

variable (sep) in
/-- Induction over the pieces of a text. -/
theorem pieces_induction {motive : List α → Prop}
    (piece : ∀ w, (∀ c ∈ w, sep c = false) → motive w)
    (cons : ∀ w c rest, (∀ d ∈ w, sep d = false) → sep c = true → motive rest →
      motive (w ++ c :: rest)) (text : List α) : motive text := by
  suffices hpart : ∀ w, (∀ c ∈ w, sep c = false) → motive (w ++ text) from
    hpart [] fun _ hc => absurd hc List.not_mem_nil
  induction text with
  | nil =>
    intro w hw
    rw [List.append_nil]
    exact piece w hw
  | cons c text ih =>
    intro w hw
    by_cases hc : sep c = true
    · exact cons w c text hw hc (ih [] fun _ hd => absurd hd List.not_mem_nil)
    · rw [List.append_cons]
      refine ih (w ++ [c]) ?_
      intro d hd
      rcases List.mem_append.mp hd with hd | hd
      · exact hw d hd
      · rw [List.mem_singleton.mp hd]
        exact Bool.eq_false_iff.mpr hc

@[simp] theorem tokens_append_sep (c : α) (x y : List α) (hc : sep c = true) :
    tokens sep blank (x ++ c :: y) = tokens sep blank x ++ tokens sep blank y := by
  unfold tokens
  rw [List.splitOnP_append_cons x y hc, List.map_append, List.filter_append]

theorem tokens_piece (w : List α) (whole : ∀ c ∈ w, sep c = false) :
    tokens sep blank w = if strip blank w = [] then [] else [strip blank w] := by
  rw [tokens, List.splitOnP_eq_singleton whole]
  by_cases hnil : strip blank w = [] <;> simp [hnil]

theorem tokens_cons_blank (c : α) (text : List α) (hc : blank c = true) (hother : sep c = false) :
    tokens sep blank (c :: text) = tokens sep blank text := by
  have hpiece : ∀ w, (∀ d ∈ w, sep d = false) → tokens sep blank (c :: w) = tokens sep blank w := by
    intro w hw
    have hcons : ∀ d ∈ c :: w, sep d = false := by
      intro d hd
      rcases List.mem_cons.mp hd with rfl | hd
      · exact hother
      · exact hw d hd
    rw [tokens_piece (c :: w) hcons, tokens_piece w hw, strip_cons c w hc]
  induction text using pieces_induction sep with
  | piece w hw => exact hpiece w hw
  | cons w d rest hw hd _ =>
    rw [← List.cons_append, tokens_append_sep d (c :: w) rest hd, tokens_append_sep d w rest hd,
      hpiece w hw]

theorem tokens_concat_blank (text : List α) (c : α) (hc : blank c = true) (hother : sep c = false) :
    tokens sep blank (text ++ [c]) = tokens sep blank text := by
  induction text using pieces_induction sep with
  | piece w hw =>
    have hconcat : ∀ d ∈ w ++ [c], sep d = false := by
      intro d hd
      rcases List.mem_append.mp hd with hd | hd
      · exact hw d hd
      · rw [List.mem_singleton.mp hd]
        exact hother
    rw [tokens_piece (w ++ [c]) hconcat, tokens_piece w hw, strip_concat w c hc]
  | cons w d rest hw hd ih =>
    rw [List.append_assoc, List.cons_append, tokens_append_sep d w _ hd,
      tokens_append_sep d w rest hd, ih]

theorem tokens_nil : tokens sep blank [] = [] := rfl

/-- A gap in front of a text is no part of a token. -/
theorem tokens_gap_append (gap text : List α) (hgap : IsGap sep blank gap) :
    tokens sep blank (gap ++ text) = tokens sep blank text := by
  induction gap with
  | nil => rfl
  | cons c gap ih =>
    have hrest := ih fun d hd => hgap d (List.mem_cons_of_mem c hd)
    by_cases hc : sep c = true
    · rw [List.cons_append, ← hrest]
      exact tokens_append_sep c [] (gap ++ text) hc
    · have hother := Bool.eq_false_iff.mpr hc
      have hblank := (hgap c List.mem_cons_self).resolve_right hc
      rw [List.cons_append, tokens_cons_blank c _ hblank hother, hrest]

/-- Nor is one behind it. -/
theorem tokens_append_gap (text gap : List α) (hgap : IsGap sep blank gap) :
    tokens sep blank (text ++ gap) = tokens sep blank text := by
  induction gap generalizing text with
  | nil => rw [List.append_nil]
  | cons c gap ih =>
    have hrest : IsGap sep blank gap := fun d hd => hgap d (List.mem_cons_of_mem c hd)
    rw [List.append_cons, ih _ hrest]
    by_cases hc : sep c = true
    · rw [tokens_append_sep c text [] hc, tokens_nil, List.append_nil]
    · have hother := Bool.eq_false_iff.mpr hc
      have hblank := (hgap c List.mem_cons_self).resolve_right hc
      exact tokens_concat_blank text c hblank hother

/-- Stripping a whole text leaves its tokens. -/
theorem tokens_strip (text : List α) :
    tokens sep blank (strip blank text) = tokens sep blank text := by
  obtain ⟨lead, trail, htext, hlead, htrail⟩ := strip_parts blank text
  calc tokens sep blank (strip blank text)
      = tokens sep blank (lead ++ strip blank text) :=
        (tokens_gap_append lead _ fun c hc => .inl (hlead c hc)).symm
    _ = tokens sep blank (lead ++ strip blank text ++ trail) :=
        (tokens_append_gap _ trail fun c hc => .inl (htrail c hc)).symm
    _ = tokens sep blank text := by rw [← htext]

/-! ## Tokens and the ways to write them -/

theorem tokens_entry (entry : List α) (token : IsToken sep blank entry) :
    tokens sep blank entry = [entry] := by
  rw [tokens_piece entry token.whole, strip_eq_self entry token.starts token.ends,
    if_neg token.nonempty]

theorem isToken_strip (w : List α) (whole : ∀ c ∈ w, sep c = false) (hne : strip blank w ≠ []) :
    IsToken sep blank (strip blank w) where
  nonempty := hne
  whole c hc := by
    obtain ⟨lead, trail, htext, -, -⟩ := strip_parts blank w
    exact whole c (by rw [htext]; simp [hc])
  starts := strip_starts w
  ends := strip_ends w

theorem isToken_of_mem (text entry : List α) (h : entry ∈ tokens sep blank text) :
    IsToken sep blank entry := by
  have hpiece : ∀ w, (∀ c ∈ w, sep c = false) → entry ∈ tokens sep blank w →
      IsToken sep blank entry := by
    intro w hw hmem
    rw [tokens_piece w hw] at hmem
    split at hmem
    · cases hmem
    · rename_i hne
      rw [List.mem_singleton.mp hmem]
      exact isToken_strip w hw hne
  induction text using pieces_induction sep with
  | piece w hw => exact hpiece w hw h
  | cons w c rest hw hc ih =>
    rw [tokens_append_sep c w rest hc] at h
    rcases List.mem_append.mp h with h | h
    · exact hpiece w hw h
    · exact ih h

theorem tokens_of_written (entries : List (List α)) (text : List α)
    (written : Written sep blank entries text) (proper : ∀ entry ∈ entries, IsToken sep blank entry) :
    tokens sep blank text = entries := by
  have hentry : ∀ lead entry trail, IsGap sep blank lead → IsGap sep blank trail →
      IsToken sep blank entry → tokens sep blank (lead ++ entry ++ trail) = [entry] := by
    intro lead entry trail hlead htrail token
    rw [tokens_append_gap _ trail htrail, tokens_gap_append lead _ hlead, tokens_entry entry token]
  induction written with
  | blank gap hgap =>
    have hall := tokens_append_gap [] gap hgap
    rwa [List.nil_append, tokens_nil] at hall
  | last lead entry trail hlead htrail =>
    exact hentry lead entry trail hlead htrail (proper entry List.mem_cons_self)
  | cons lead entry gap c entries text hlead hgap hc _ ih =>
    rw [tokens_append_sep c _ text hc, hentry lead entry gap hlead hgap (proper entry List.mem_cons_self),
      ih fun e he => proper e (List.mem_cons_of_mem entry he)]
    rfl

theorem Written.gap_append (gap text : List α) (entries : List (List α)) (hgap : IsGap sep blank gap)
    (written : Written sep blank entries text) : Written sep blank entries (gap ++ text) := by
  have hjoin : ∀ lead, IsGap sep blank lead → IsGap sep blank (gap ++ lead) := by
    intro lead hlead c hc
    exact (List.mem_append.mp hc).elim (hgap c) (hlead c)
  cases written with
  | blank text htext => exact .blank (gap ++ text) (hjoin text htext)
  | last lead entry trail hlead htrail =>
    rw [← List.append_assoc, ← List.append_assoc]
    exact .last (gap ++ lead) entry trail (hjoin lead hlead) htrail
  | cons lead entry between c entries text hlead hbetween hc rest =>
    rw [← List.append_assoc, ← List.append_assoc, ← List.append_assoc]
    exact .cons (gap ++ lead) entry between c entries text (hjoin lead hlead) hbetween hc rest

/-- Every text is a way to write its tokens. -/
theorem written_tokens (text : List α) : Written sep blank (tokens sep blank text) text := by
  have hgap : ∀ gap : List α, (∀ c ∈ gap, blank c = true) → IsGap sep blank gap :=
    fun gap h c hc => .inl (h c hc)
  induction text using pieces_induction sep with
  | piece w hw =>
    rw [tokens_piece w hw]
    split
    · rename_i hnil
      exact .blank w (hgap w ((strip_eq_nil_iff w).mp hnil))
    · obtain ⟨lead, trail, htext, hlead, htrail⟩ := strip_parts blank w
      have hlast := Written.last lead (strip blank w) trail (hgap lead hlead) (hgap trail htrail)
      rwa [← htext] at hlast
  | cons w c rest hw hc ih =>
    rw [tokens_append_sep c w rest hc, tokens_piece w hw]
    split
    · rename_i hnil
      have hlead : IsGap sep blank (w ++ [c]) := by
        intro d hd
        rcases List.mem_append.mp hd with hd | hd
        · exact .inl ((strip_eq_nil_iff w).mp hnil d hd)
        · rw [List.mem_singleton.mp hd]
          exact .inr hc
      rw [List.append_cons]
      exact ih.gap_append _ _ _ hlead
    · obtain ⟨lead, trail, htext, hlead, htrail⟩ := strip_parts blank w
      have hcons := Written.cons lead (strip blank w) trail c _ rest (hgap lead hlead)
        (hgap trail htrail) hc ih
      rwa [← htext] at hcons

/-- The tokens of a text are the proper entries that it writes down. -/
theorem tokens_eq_iff (text : List α) (entries : List (List α)) :
    tokens sep blank text = entries ↔
      Written sep blank entries text ∧ ∀ entry ∈ entries, IsToken sep blank entry := by
  constructor
  · rintro rfl
    exact ⟨written_tokens text, fun entry => isToken_of_mem text entry⟩
  · intro ⟨written, proper⟩
    exact tokens_of_written entries text written proper

/-- A text has no tokens exactly if it is a gap. -/
theorem tokens_eq_nil_iff (text : List α) : tokens sep blank text = [] ↔ IsGap sep blank text := by
  constructor
  · intro hnil
    have hwritten := ((tokens_eq_iff text []).mp hnil).1
    cases hwritten with
    | blank _ hgap => exact hgap
  · intro hgap
    exact tokens_of_written [] text (.blank text hgap) fun _ h => absurd h List.not_mem_nil

end TgWsProxy.Library.Tokens
