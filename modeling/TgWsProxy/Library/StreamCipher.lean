import TgWsProxy.Library.Bytes

/-!
# Additive stream ciphers

A keystream is an octet for every position. `mask` adds it to a text that
starts at a given position; it is its own inverse, keeps lengths and every
octet's position, and a text masked in pieces is masked as a whole.
-/

set_option autoImplicit false

namespace TgWsProxy.Library

abbrev Keystream := Nat → UInt8

/-- Add the keystream from position `pos` on. -/
def mask (ks : Keystream) : Nat → Bytes → Bytes
  | _, [] => []
  | pos, b :: bs => (b ^^^ ks pos) :: mask ks (pos + 1) bs

@[simp] theorem xor_xor_cancel_right (a b : UInt8) : (a ^^^ b) ^^^ a = b := by
  rw [UInt8.xor_comm a b, UInt8.xor_assoc, UInt8.xor_self, UInt8.xor_zero]

@[simp] theorem mask_nil (ks : Keystream) (pos : Nat) : mask ks pos [] = [] := rfl

@[simp] theorem mask_length (ks : Keystream) (pos : Nat) (bs : Bytes) :
    (mask ks pos bs).length = bs.length := by
  induction bs generalizing pos with
  | nil => rfl
  | cons b bs ih => simp [mask, ih]

/-- Masking twice from one position gives the text back. -/
@[simp] theorem mask_mask (ks : Keystream) (pos : Nat) (bs : Bytes) :
    mask ks pos (mask ks pos bs) = bs := by
  induction bs generalizing pos with
  | nil => rfl
  | cons b bs ih =>
    rw [mask, mask, ih, UInt8.xor_assoc, UInt8.xor_self, UInt8.xor_zero]

theorem mask_eq_iff (ks : Keystream) (pos : Nat) (xs ys : Bytes) :
    mask ks pos xs = ys ↔ xs = mask ks pos ys := by
  constructor
  · rintro rfl
    exact (mask_mask ks pos xs).symm
  · rintro rfl
    exact mask_mask ks pos ys

theorem mask_getElem? (ks : Keystream) (pos i : Nat) (bs : Bytes) :
    (mask ks pos bs)[i]? = bs[i]?.map (· ^^^ ks (pos + i)) := by
  induction bs generalizing pos i with
  | nil => simp
  | cons b bs ih =>
    cases i with
    | zero => simp [mask]
    | succ i => simp [mask, ih, Nat.add_assoc, Nat.add_comm 1]

theorem mask_append (ks : Keystream) (pos : Nat) (bs more : Bytes) :
    mask ks pos (bs ++ more) = mask ks pos bs ++ mask ks (pos + bs.length) more := by
  induction bs generalizing pos with
  | nil => simp
  | cons b bs ih => simp [mask, ih, Nat.add_assoc, Nat.add_comm 1]

theorem mask_drop (ks : Keystream) (pos n : Nat) (bs : Bytes) :
    (mask ks pos bs).drop n = mask ks (pos + n) (bs.drop n) := by
  induction bs generalizing pos n with
  | nil => simp
  | cons b bs ih =>
    cases n with
    | zero => rfl
    | succ n => simp [mask, ih, Nat.add_assoc, Nat.add_comm 1]

theorem mask_take (ks : Keystream) (pos n : Nat) (bs : Bytes) :
    (mask ks pos bs).take n = mask ks pos (bs.take n) := by
  induction bs generalizing pos n with
  | nil => simp
  | cons b bs ih =>
    cases n with
    | zero => rfl
    | succ n => simp [mask, ih]

end TgWsProxy.Library
