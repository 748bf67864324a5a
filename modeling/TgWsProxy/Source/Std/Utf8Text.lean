import TgWsProxy.Source.Std.Utf8

/-!
# Decoding what was encoded

The octets of a string are those of its characters, one after another. The lossy
decoder gives every string back (`fromUtf8Lossy_utf8`), and an octet below `0x80`
stands for itself wherever it occurs (`mem_utf8_of_ascii`), so a line break among the
octets is one among the characters.
-/

set_option autoImplicit false

namespace TgWsProxy.Source.Std
open Library

theorem utf8_ofList (text : List Char) :
    utf8 (String.ofList text) = text.flatMap String.utf8EncodeChar := by
  unfold utf8
  rw [String.toByteArray_ofList, List.utf8Encode, List.data_toByteArray]

theorem utf8_eq (s : String) : utf8 s = s.toList.flatMap String.utf8EncodeChar := by
  rw [← utf8_ofList, String.ofList_toList]

theorem utf8_append (s t : String) : utf8 (s ++ t) = utf8 s ++ utf8 t := by
  rw [utf8_eq, utf8_eq, utf8_eq, String.toList_append, List.flatMap_append]

/-! ## One character -/

theorem isContinuation_ofNat : ∀ k : Fin 64, isContinuation (UInt8.ofNat (k + 0x80)) = true := by
  decide

theorem utf8CharWidth_ofNat : ∀ a : Fin 256, utf8CharWidth (UInt8.ofNat a) =
    if a.val < 0x80 then 1 else if a.val < 0xC2 then 0 else if a.val < 0xE0 then 2
    else if a.val < 0xF0 then 3 else if a.val < 0xF5 then 4 else 0 := by
  decide +kernel

theorem ofNat_eq_iff (a b : Nat) (ha : a < 256) (hb : b < 256) :
    UInt8.ofNat a = UInt8.ofNat b ↔ a = b := by
  rw [← UInt8.toNat_inj, UInt8.toNat_ofNat', UInt8.toNat_ofNat']
  omega

theorem ofNat_le_iff (a b : Nat) (ha : a < 256) (hb : b < 256) :
    UInt8.ofNat a ≤ UInt8.ofNat b ↔ a ≤ b := by
  rw [UInt8.le_iff_toNat_le, UInt8.toNat_ofNat', UInt8.toNat_ofNat']
  omega

/-- The bounds on a second octet, in numbers. -/
theorem secondAllowed_ofNat (a k : Nat) (ha : a < 256) (hk : k < 64) (he0 : a = 0xE0 → 0x20 ≤ k)
    (hed : a = 0xED → k < 0x20) (hf0 : a = 0xF0 → 0x10 ≤ k) (hf4 : a = 0xF4 → k < 0x10) :
    secondAllowed (UInt8.ofNat a) (UInt8.ofNat (k + 0x80)) = true := by
  have heq := fun b (hb : b < 256) => ofNat_eq_iff a b ha hb
  have hlow := fun b (hb : b < 256) => ofNat_le_iff b (k + 0x80) hb (by omega)
  have hhigh := fun b (hb : b < 256) => ofNat_le_iff (k + 0x80) b (by omega) hb
  have hcontinues := isContinuation_ofNat ⟨k, hk⟩
  unfold secondAllowed
  split
  · rename_i h
    have := he0 ((heq 0xE0 (by decide)).mp h)
    rw [Bool.and_eq_true, decide_eq_true_eq, decide_eq_true_eq]
    exact ⟨(hlow 0xA0 (by decide)).mpr (by omega), (hhigh 0xBF (by decide)).mpr (by omega)⟩
  · split
    · rename_i h
      have := hed ((heq 0xED (by decide)).mp h)
      rw [Bool.and_eq_true, decide_eq_true_eq, decide_eq_true_eq]
      exact ⟨(hlow 0x80 (by decide)).mpr (by omega), (hhigh 0x9F (by decide)).mpr (by omega)⟩
    · split
      · rename_i h
        have := hf0 ((heq 0xF0 (by decide)).mp h)
        rw [Bool.and_eq_true, decide_eq_true_eq, decide_eq_true_eq]
        exact ⟨(hlow 0x90 (by decide)).mpr (by omega), (hhigh 0xBF (by decide)).mpr (by omega)⟩
      · split
        · rename_i h
          have := hf4 ((heq 0xF4 (by decide)).mp h)
          rw [Bool.and_eq_true, decide_eq_true_eq, decide_eq_true_eq]
          exact ⟨(hlow 0x80 (by decide)).mpr (by omega), (hhigh 0x8F (by decide)).mpr (by omega)⟩
        · exact hcontinues

/-- A continuation octet carries six bits. -/
theorem continuation_toNat (k : Nat) (hk : k < 64) : (UInt8.ofNat (k + 0x80)).toNat % 64 = k := by
  rw [UInt8.toNat_ofNat']
  omega

/-- The decoder takes a character's octets for that character, and all of them. -/
theorem lossyStep_utf8EncodeChar (c : Char) (rest : Bytes) :
    ∃ b0 more, String.utf8EncodeChar c = b0 :: more ∧
      lossyStep b0 (more ++ rest) = (c, more.length + 1) := by
  have hvalid := c.valid
  simp only [UInt32.isValidChar, Nat.isValidChar] at hvalid
  have hchar : Char.ofNat c.val.toNat = c := Char.ofNat_toNat c
  unfold String.utf8EncodeChar
  dsimp only
  generalize c.val.toNat = n at hvalid hchar ⊢
  split
  · rename_i h1
    refine ⟨_, [], rfl, ?_⟩
    have hwidth := utf8CharWidth_ofNat ⟨n, by omega⟩
    dsimp only at hwidth
    rw [if_pos (by omega)] at hwidth
    have hlead : (UInt8.ofNat n).toNat = n := by
      rw [UInt8.toNat_ofNat']
      omega
    simp only [lossyStep, hwidth, hlead, hchar, List.length_nil]
  · rename_i h1
    split
    · rename_i h2
      refine ⟨_, [_], rfl, ?_⟩
      have hwidth := utf8CharWidth_ofNat ⟨n / 64 % 0x20 + 0xc0, by omega⟩
      dsimp only at hwidth
      rw [if_neg (by omega), if_neg (by omega), if_pos (by omega)] at hwidth
      have hsecond := secondAllowed_ofNat (n / 64 % 0x20 + 0xc0) (n % 0x40) (by omega) (by omega)
        (by omega) (by omega) (by omega) (by omega)
      have hlead : (UInt8.ofNat (n / 64 % 0x20 + 0xc0)).toNat % 32 = n / 64 := by
        rw [UInt8.toNat_ofNat']
        omega
      have hvalue : n / 64 * 64 + n % 0x40 = n := by omega
      simp only [lossyStep, hwidth, List.cons_append, List.nil_append, List.getD_cons_zero, hsecond,
        if_true, scalar, hlead, List.foldl_cons, List.foldl_nil,
        continuation_toNat (n % 0x40) (by omega), hvalue, hchar, List.length_cons, List.length_nil]
    · rename_i h2
      split
      · rename_i h3
        refine ⟨_, [_, _], rfl, ?_⟩
        have hwidth := utf8CharWidth_ofNat ⟨n / 4096 % 0x10 + 0xe0, by omega⟩
        dsimp only at hwidth
        rw [if_neg (by omega), if_neg (by omega), if_neg (by omega), if_pos (by omega)] at hwidth
        have hsecond := secondAllowed_ofNat (n / 4096 % 0x10 + 0xe0) (n / 64 % 0x40) (by omega) (by omega)
          (by omega) (by omega) (by omega) (by omega)
        have hthird := isContinuation_ofNat ⟨n % 0x40, by omega⟩
        dsimp only at hthird
        have hlead : (UInt8.ofNat (n / 4096 % 0x10 + 0xe0)).toNat % 16 = n / 4096 := by
          rw [UInt8.toNat_ofNat']
          omega
        have hvalue : (n / 4096 * 64 + n / 64 % 0x40) * 64 + n % 0x40 = n := by omega
        simp only [lossyStep, hwidth, List.cons_append, List.nil_append, List.getD_cons_zero,
          List.getD_cons_succ, hsecond, hthird, Bool.not_true, Bool.false_eq_true, if_false, scalar,
          hlead, List.foldl_cons, List.foldl_nil, continuation_toNat (n / 64 % 0x40) (by omega),
          continuation_toNat (n % 0x40) (by omega), hvalue, hchar, List.length_cons, List.length_nil]
      · rename_i h3
        refine ⟨_, [_, _, _], rfl, ?_⟩
        have hwidth := utf8CharWidth_ofNat ⟨n / 262144 % 0x08 + 0xf0, by omega⟩
        dsimp only at hwidth
        rw [if_neg (by omega), if_neg (by omega), if_neg (by omega), if_neg (by omega),
          if_pos (by omega)] at hwidth
        have hsecond := secondAllowed_ofNat (n / 262144 % 0x08 + 0xf0) (n / 4096 % 0x40) (by omega)
          (by omega) (by omega) (by omega) (by omega) (by omega)
        have hthird := isContinuation_ofNat ⟨n / 64 % 0x40, by omega⟩
        have hfourth := isContinuation_ofNat ⟨n % 0x40, by omega⟩
        dsimp only at hthird hfourth
        have hlead : (UInt8.ofNat (n / 262144 % 0x08 + 0xf0)).toNat % 8 = n / 262144 := by
          rw [UInt8.toNat_ofNat']
          omega
        have hvalue : ((n / 262144 * 64 + n / 4096 % 0x40) * 64 + n / 64 % 0x40) * 64 + n % 0x40 = n := by
          omega
        simp only [lossyStep, hwidth, List.cons_append, List.nil_append, List.getD_cons_zero,
          List.getD_cons_succ, hsecond, hthird, hfourth, Bool.not_true, Bool.false_eq_true, if_false,
          scalar, hlead, List.foldl_cons, List.foldl_nil,
          continuation_toNat (n / 4096 % 0x40) (by omega), continuation_toNat (n / 64 % 0x40) (by omega),
          continuation_toNat (n % 0x40) (by omega), hvalue, hchar, List.length_cons, List.length_nil]

/-! ## A string -/

theorem lossyChars_utf8 (text : List Char) (fuel : Nat)
    (enough : (text.flatMap String.utf8EncodeChar).length ≤ fuel) :
    lossyChars fuel (text.flatMap String.utf8EncodeChar) = text := by
  induction text generalizing fuel with
  | nil => cases fuel <;> rfl
  | cons c text ih =>
    obtain ⟨b0, more, hencode, hstep⟩ :=
      lossyStep_utf8EncodeChar c (text.flatMap String.utf8EncodeChar)
    rw [List.flatMap_cons, hencode, List.cons_append] at enough ⊢
    simp only [List.length_cons, List.length_append] at enough
    obtain ⟨fuel, rfl⟩ : ∃ k, fuel = k + 1 := ⟨fuel - 1, by omega⟩
    rw [lossyChars, hstep]
    dsimp only
    rw [Nat.add_sub_cancel, List.drop_left, ih fuel (by omega)]

theorem fromUtf8Lossy_utf8 (s : String) : fromUtf8Lossy (utf8 s) = s := by
  rw [fromUtf8Lossy, utf8_eq, lossyChars_utf8 s.toList _ (Nat.le_refl _), String.ofList_toList]

/-- An octet below `0x80` stands for itself. -/
theorem mem_utf8_of_ascii (s : String) (b : UInt8) (ascii : b < 0x80) (h : b ∈ utf8 s) :
    Char.ofNat b.toNat ∈ s.toList := by
  rw [utf8_eq] at h
  obtain ⟨c, hc, hb⟩ := List.mem_flatMap.mp h
  have hchar : Char.ofNat c.val.toNat = c := Char.ofNat_toNat c
  rw [UInt8.lt_iff_toNat_lt] at ascii
  have hfar : ∀ n, 0x80 ≤ n → n < 256 → b ≠ UInt8.ofNat n := by
    rintro n low high rfl
    rw [UInt8.toNat_ofNat'] at ascii
    have hbound : (0x80 : UInt8).toNat = 128 := rfl
    omega
  unfold String.utf8EncodeChar at hb
  dsimp only at hb
  split at hb
  · rename_i h1
    obtain rfl := List.mem_singleton.mp hb
    rw [UInt8.toNat_ofNat', Nat.mod_eq_of_lt (by omega), hchar]
    exact hc
  · split at hb
    · simp only [List.mem_cons, List.not_mem_nil, or_false] at hb
      rcases hb with hb | hb <;> exact absurd hb (hfar _ (by omega) (by omega))
    · split at hb
      · simp only [List.mem_cons, List.not_mem_nil, or_false] at hb
        rcases hb with hb | hb | hb <;> exact absurd hb (hfar _ (by omega) (by omega))
      · simp only [List.mem_cons, List.not_mem_nil, or_false] at hb
        rcases hb with hb | hb | hb | hb <;> exact absurd hb (hfar _ (by omega) (by omega))

end TgWsProxy.Source.Std
