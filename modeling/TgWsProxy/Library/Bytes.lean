import Mathlib.Data.Nat.Digits.Lemmas

/-!
# Octet strings: fixed-width integers and checked reads

Octet strings are lists of `UInt8`. A value is written in a fixed number of
octets (`toLE`, `toBE`) and read back from any number of them (`ofLE`, `ofBE`);
the two are inverse on values that fit. `index` and `slice` are the reads that
stop the program when they leave the string, so that a caller has to show they
do not.
-/

set_option autoImplicit false

namespace TgWsProxy.Library

abbrev Bytes := List UInt8

/-- Value of a little-endian octet string. -/
def ofLE (bs : Bytes) : Nat := Nat.ofDigits 256 (bs.map UInt8.toNat)

/-- Exactly `width` little-endian octets of `n`, high bits dropped. -/
def toLE : Nat → Nat → Bytes
  | 0, _ => []
  | width + 1, n => UInt8.ofNat n :: toLE width (n / 256)

def ofBE (bs : Bytes) : Nat := ofLE bs.reverse

def toBE (width n : Nat) : Bytes := (toLE width n).reverse

@[simp] theorem ofLE_nil : ofLE [] = 0 := rfl

@[simp] theorem ofLE_cons (b : UInt8) (bs : Bytes) : ofLE (b :: bs) = b.toNat + 256 * ofLE bs := by
  simp [ofLE, Nat.ofDigits_cons]

@[simp] theorem toLE_length (width n : Nat) : (toLE width n).length = width := by
  induction width generalizing n with
  | zero => rfl
  | succ width ih => simp [toLE, ih]

@[simp] theorem toBE_length (width n : Nat) : (toBE width n).length = width := by
  simp [toBE]

/-- A string of `k` octets stays below `256 ^ k`. -/
theorem ofLE_lt (bs : Bytes) : ofLE bs < 256 ^ bs.length := by
  induction bs with
  | nil => simp
  | cons b bs ih =>
    have hb : b.toNat < 256 := b.toNat_lt
    rw [ofLE_cons, List.length_cons, Nat.pow_succ]
    omega

theorem ofBE_lt (bs : Bytes) : ofBE bs < 256 ^ bs.length := by
  simpa [ofBE] using ofLE_lt bs.reverse

/-- Decoding recovers every value that fits in the written octets. -/
theorem ofLE_toLE (width n : Nat) (fits : n < 256 ^ width) : ofLE (toLE width n) = n := by
  induction width generalizing n with
  | zero =>
    have hn : n = 0 := by simpa using fits
    simp [toLE, hn]
  | succ width ih =>
    have hdiv : n / 256 < 256 ^ width := by
      apply Nat.div_lt_of_lt_mul
      rwa [Nat.mul_comm, ← Nat.pow_succ]
    have hlow : (UInt8.ofNat n).toNat = n % 256 := by simp
    rw [toLE, ofLE_cons, ih _ hdiv, hlow]
    exact Nat.mod_add_div n 256

theorem ofBE_toBE (width n : Nat) (fits : n < 256 ^ width) : ofBE (toBE width n) = n := by
  simpa [ofBE, toBE] using ofLE_toLE width n fits

/-- Encoding recovers every octet string from its value. -/
theorem toLE_ofLE (bs : Bytes) : toLE bs.length (ofLE bs) = bs := by
  induction bs with
  | nil => rfl
  | cons b bs ih =>
    have hb : b.toNat < 256 := b.toNat_lt
    have hhead : UInt8.ofNat (b.toNat + 256 * ofLE bs) = b := by
      apply UInt8.toNat_inj.mp
      simp only [UInt8.toNat_ofNat']
      omega
    have htail : (b.toNat + 256 * ofLE bs) / 256 = ofLE bs := by omega
    rw [List.length_cons, toLE, ofLE_cons, hhead, htail, ih]

theorem toBE_ofBE (bs : Bytes) : toBE bs.length (ofBE bs) = bs := by
  have h := toLE_ofLE bs.reverse
  rw [List.length_reverse] at h
  simp [toBE, ofBE, h]

/-- Why a checked read or an allocation stops the program. -/
inductive Panic where
  | indexOutOfBounds | sliceOutOfRange | capacityOverflow
  deriving DecidableEq, Repr

abbrev Checked := Except Panic

def index (bs : Bytes) (i : Nat) : Checked UInt8 :=
  match bs[i]? with
  | some b => .ok b
  | none => .error .indexOutOfBounds

def slice (bs : Bytes) (start stop : Nat) : Checked Bytes :=
  if start ≤ stop ∧ stop ≤ bs.length then .ok (bs.extract start stop)
  else .error .sliceOutOfRange

theorem index_of_lt (bs : Bytes) (i : Nat) (h : i < bs.length) : index bs i = .ok bs[i] := by
  simp [index, h]

theorem slice_of_le (bs : Bytes) (start stop : Nat) (h : start ≤ stop) (hs : stop ≤ bs.length) :
    slice bs start stop = .ok (bs.extract start stop) := by
  simp [slice, h, hs]

end TgWsProxy.Library
