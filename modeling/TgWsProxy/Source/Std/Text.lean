import Mathlib.Algebra.GroupWithZero.Nat
import TgWsProxy.Library.Numerals
import TgWsProxy.Library.Tokens

/-!
# String slices of the standard library

The methods of `str` that the program calls, on lists of characters: trimming and
splitting at the characters that Unicode calls white space, splitting at
separators, comparison that ignores the case of ASCII letters, and the parser
behind `u16::from_str`.
-/

set_option autoImplicit false

namespace TgWsProxy.Source.Std
open Library.Numerals Library.Tokens

/-- `char::is_whitespace`. -/
def isWhitespace (c : Char) : Bool :=
  let n := c.toNat
  (9 ≤ n && n ≤ 13) || n == 0x20 || n == 0x85 || n == 0xA0 || n == 0x1680 ||
    (0x2000 ≤ n && n ≤ 0x200A) || n == 0x2028 || n == 0x2029 || n == 0x202F || n == 0x205F ||
    n == 0x3000

def trimEnd (p : Char → Bool) (text : List Char) : List Char := (text.reverse.dropWhile p).reverse

/-- `str::trim`. -/
def trim (text : List Char) : List Char := trimEnd isWhitespace (text.dropWhile isWhitespace)

/-- `str::split_once` at a character. -/
def splitOnce (sep : Char) : List Char → Option (List Char × List Char)
  | [] => none
  | c :: rest =>
    if c = sep then some ([], rest) else (splitOnce sep rest).map fun (before, after) => (c :: before, after)

/-- `str::split_whitespace`. -/
def splitWhitespace (text : List Char) : List (List Char) :=
  (text.splitOnP isWhitespace).filter fun part => !part.isEmpty

/-- `str::eq_ignore_ascii_case`. -/
def eqIgnoreAsciiCase (xs ys : List Char) : Bool := xs.map Char.toLower == ys.map Char.toLower

/-- `u16::from_str`: decimal digits behind an optional plus sign. -/
def parseU16 (text : List Char) : Option UInt16 :=
  let digits := if text.head? = some '+' then text.tail else text
  if digits.isEmpty || !digits.all (isDigit 10) then none
  else if valueOf 10 digits 0 < 2 ^ 16 then some (UInt16.ofNat (valueOf 10 digits 0))
  else none

/-! ## Trimming and splitting -/

theorem trim_eq_strip (text : List Char) : trim text = strip isWhitespace text := rfl

/-- The split is at the first separator. -/
theorem splitOnce_eq_some_iff (sep : Char) (text before after : List Char) :
    splitOnce sep text = some (before, after) ↔ text = before ++ sep :: after ∧ sep ∉ before := by
  induction text generalizing before with
  | nil => simp [splitOnce]
  | cons c text ih =>
    rw [splitOnce]
    split
    · rename_i hc
      cases before with
      | nil => simp [hc]
      | cons b before => simp +contextual [hc]
    · rename_i hc
      cases before with
      | nil => simp [hc]
      | cons b before =>
        constructor
        · intro h
          obtain ⟨⟨front, back⟩, hrest, heq⟩ := Option.map_eq_some_iff.mp h
          simp only [Prod.mk.injEq, List.cons.injEq] at heq
          obtain ⟨⟨rfl, rfl⟩, rfl⟩ := heq
          obtain ⟨rfl, absent⟩ := (ih front).mp hrest
          exact ⟨rfl, by simp [absent, Ne.symm hc]⟩
        · intro ⟨heq, absent⟩
          obtain ⟨rfl, rfl⟩ := List.cons.inj heq
          rw [(ih before).mpr ⟨rfl, fun h => absent (List.mem_cons_of_mem c h)⟩]
          rfl

theorem splitOnce_eq_none_iff (sep : Char) (text : List Char) : splitOnce sep text = none ↔ sep ∉ text := by
  induction text with
  | nil => simp [splitOnce]
  | cons c text ih =>
    rw [splitOnce]
    split
    · rename_i hc
      simp [hc]
    · rename_i hc
      simp [ih, Ne.symm hc]

end TgWsProxy.Source.Std
