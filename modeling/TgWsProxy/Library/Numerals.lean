import Mathlib.Data.List.Basic
import Mathlib.Data.List.TakeWhile

/-!
# Numerals at the front of a text

A numeral is read digit by digit until the first character that is not a digit
of the radix, and refused when it has more digits than allowed. Whatever
`Nat.toDigits` writes is read back, and the text that remains is always what
follows the longest run of digits.
-/

set_option autoImplicit false

namespace TgWsProxy.Library.Numerals

/-- The digit that a character stands for, letters in either case. -/
def toDigit (radix : Nat) (c : Char) : Option Nat :=
  let value :=
    if '0' ≤ c ∧ c ≤ '9' then some (c.toNat - '0'.toNat)
    else if 'a' ≤ c ∧ c ≤ 'z' then some (c.toNat - 'a'.toNat + 10)
    else if 'A' ≤ c ∧ c ≤ 'Z' then some (c.toNat - 'A'.toNat + 10)
    else none
  value.filter (· < radix)

def isDigit (radix : Nat) (c : Char) : Bool := (toDigit radix c).isSome

/-- Value, number of digits and remaining text; `none` past the digits allowed. -/
def readDigits (radix maxDigits : Nat) : List Char → Nat → Nat → Option (Nat × Nat × List Char)
  | [], value, count => some (value, count, [])
  | c :: rest, value, count =>
    match toDigit radix c with
    | none => some (value, count, c :: rest)
    | some digit =>
      if count + 1 > maxDigits then none
      else readDigits radix maxDigits rest (value * radix + digit) (count + 1)

/-- The value of a run of digits behind one already read. -/
def valueOf (radix : Nat) (digits : List Char) (value : Nat) : Nat :=
  digits.foldl (fun value c => value * radix + (toDigit radix c).getD 0) value

theorem readDigits_append (radix maxDigits : Nat) (digits rest : List Char) (value count : Nat)
    (all : ∀ c ∈ digits, isDigit radix c = true) (fits : count + digits.length ≤ maxDigits)
    (stop : ∀ c ∈ rest.head?, isDigit radix c = false) :
    readDigits radix maxDigits (digits ++ rest) value count =
      some (valueOf radix digits value, count + digits.length, rest) := by
  induction digits generalizing value count with
  | nil =>
    cases rest with
    | nil => rfl
    | cons c rest =>
      have hstop := stop c rfl
      simp only [isDigit, Option.isSome_eq_false_iff, Option.isNone_iff_eq_none] at hstop
      simp [readDigits, hstop, valueOf]
  | cons c digits ih =>
    obtain ⟨digit, hdigit⟩ := Option.isSome_iff_exists.mp (all c List.mem_cons_self)
    simp only [List.length_cons] at fits
    rw [List.cons_append, readDigits, hdigit]
    dsimp only
    rw [if_neg (by omega), ih _ _ (fun d hd => all d (List.mem_cons_of_mem c hd)) (by omega)]
    simp [valueOf, hdigit, Nat.add_assoc, Nat.add_comm 1]

/-- A number stops in front of the first character that is no digit. -/
theorem readDigits_rest (radix maxDigits : Nat) (text rest : List Char) (value count v n : Nat)
    (h : readDigits radix maxDigits text value count = some (v, n, rest)) :
    rest = text.dropWhile (isDigit radix) ∧
      n = count + (text.takeWhile (isDigit radix)).length := by
  induction text generalizing value count with
  | nil =>
    obtain ⟨-, rfl, rfl⟩ : value = v ∧ count = n ∧ [] = rest := by simpa [readDigits] using h
    exact ⟨rfl, rfl⟩
  | cons c text ih =>
    rw [readDigits] at h
    split at h
    · rename_i hnone
      obtain ⟨-, rfl, rfl⟩ : value = v ∧ count = n ∧ c :: text = rest := by simpa using h
      simp [isDigit, hnone]
    · rename_i digit hdigit
      split at h
      · cases h
      · obtain ⟨hrest, hn⟩ := ih _ _ h
        simp only [List.dropWhile_cons, List.takeWhile_cons, isDigit, hdigit, Option.isSome_some,
          if_true, List.length_cons]
        exact ⟨hrest, by rw [hn]; unfold isDigit; omega⟩

theorem toDigit_digitChar_of_hex : ∀ n : Fin 16, toDigit 16 (Nat.digitChar n) = some n.val := by
  decide

theorem toDigit_digitChar (radix n : Nat) (hn : n < radix) (hradix : radix ≤ 16) :
    toDigit radix (Nat.digitChar n) = some n := by
  have hex := toDigit_digitChar_of_hex ⟨n, by omega⟩
  unfold toDigit at hex ⊢
  obtain ⟨hvalue, -⟩ := Option.filter_eq_some_iff.mp hex
  exact Option.filter_eq_some_iff.mpr ⟨hvalue, by simpa using hn⟩

theorem digitChar_eq_zero : ∀ n : Fin 16, Nat.digitChar n = '0' → n = 0 := by
  decide

theorem isDigit_of_mem_toDigits (radix n : Nat) (hone : 1 < radix) (hradix : radix ≤ 16) :
    ∀ c ∈ Nat.toDigits radix n, isDigit radix c = true := by
  induction n using Nat.strongRecOn with
  | ind n ih =>
    intro c hc
    rw [Nat.toDigits_eq_if hone] at hc
    split at hc
    · rename_i hlt
      obtain rfl := List.mem_singleton.mp hc
      rw [isDigit, toDigit_digitChar radix n hlt hradix]
      rfl
    · rename_i hge
      rcases List.mem_append.mp hc with hc | hc
      · exact ih (n / radix) (Nat.div_lt_self (by omega) hone) c hc
      · obtain rfl := List.mem_singleton.mp hc
        rw [isDigit, toDigit_digitChar radix _ (Nat.mod_lt n (by omega)) hradix]
        rfl

theorem valueOf_toDigits (radix n : Nat) (hone : 1 < radix) (hradix : radix ≤ 16) :
    valueOf radix (Nat.toDigits radix n) 0 = n := by
  induction n using Nat.strongRecOn with
  | ind n ih =>
    rw [Nat.toDigits_eq_if hone]
    split
    · rename_i hlt
      simp [valueOf, toDigit_digitChar radix n hlt hradix]
    · rename_i hge
      have hprefix := ih (n / radix) (Nat.div_lt_self (by omega) hone)
      unfold valueOf at hprefix ⊢
      rw [List.foldl_append, hprefix]
      simp only [List.foldl_cons, List.foldl_nil,
        toDigit_digitChar radix _ (Nat.mod_lt n (by omega)) hradix, Option.getD_some]
      rw [Nat.mul_comm]
      exact Nat.div_add_mod n radix

/-- Only zero is written with a leading zero. -/
theorem toDigits_head (radix n : Nat) (hone : 1 < radix) (hradix : radix ≤ 16)
    (h : (Nat.toDigits radix n).head? = some '0') : n = 0 := by
  induction n using Nat.strongRecOn with
  | ind n ih =>
    rw [Nat.toDigits_eq_if hone] at h
    split at h
    · rename_i hlt
      have hchar := digitChar_eq_zero ⟨n, by omega⟩ (Option.some.inj h)
      exact Fin.mk.inj hchar
    · rename_i hge
      rw [List.head?_append_of_ne_nil _ Nat.toDigits_ne_nil] at h
      have hzero := ih (n / radix) (Nat.div_lt_self (by omega) hone) h
      have := Nat.div_eq_zero_iff.mp hzero
      omega

end TgWsProxy.Library.Numerals
