import TgWsProxy.Library.Bytes

/-!
# UTF-8 in the standard library

`String::from_utf8`, which accepts exactly the encodings of strings, and
`String::from_utf8_lossy`, which replaces every maximal invalid sequence by
U+FFFD. A Lean string is, as a Rust one, octets that are valid UTF-8.
-/

set_option autoImplicit false

namespace TgWsProxy.Source.Std
open Library

def utf8 (s : String) : Bytes := s.toByteArray.data.toList

/-- `String::from_utf8`. -/
def fromUtf8 (bs : Bytes) : Option String := String.fromUTF8? ⟨bs.toArray⟩

theorem fromUtf8_eq_some_iff (bs : Bytes) (s : String) : fromUtf8 bs = some s ↔ bs = utf8 s := by
  unfold fromUtf8 utf8 String.fromUTF8?
  constructor
  · intro h
    split at h
    · obtain rfl := Option.some.inj h
      rfl
    · cases h
  · rintro rfl
    have harr : (⟨s.toByteArray.data.toList.toArray⟩ : ByteArray) = s.toByteArray := by
      simp
    have hvalid : (⟨s.toByteArray.data.toList.toArray⟩ : ByteArray).IsValidUTF8 :=
      harr ▸ s.isValidUTF8
    rw [dif_pos hvalid]
    congr 1

/-- `core::str::utf8_char_width`, zero for an octet that opens no sequence. -/
def utf8CharWidth (b : UInt8) : Nat :=
  if b < 0x80 then 1
  else if b < 0xC2 then 0
  else if b < 0xE0 then 2
  else if b < 0xF0 then 3
  else if b < 0xF5 then 4
  else 0

def isContinuation (b : UInt8) : Bool := b &&& 0xC0 == 0x80

/-- The second octets that overlong forms, surrogates and the upper bound leave. -/
def secondAllowed (first second : UInt8) : Bool :=
  if first = 0xE0 then 0xA0 ≤ second && second ≤ 0xBF
  else if first = 0xED then 0x80 ≤ second && second ≤ 0x9F
  else if first = 0xF0 then 0x90 ≤ second && second ≤ 0xBF
  else if first = 0xF4 then 0x80 ≤ second && second ≤ 0x8F
  else isContinuation second

/-- Scalar value of a lead octet's low bits followed by continuation octets. -/
def scalar (lead : Nat) (continuation : List UInt8) : Char :=
  Char.ofNat (continuation.foldl (fun v b => v * 64 + b.toNat % 64) lead)

/-- The next character of a lossy decoding, and the octets it stands for. -/
def lossyStep (b0 : UInt8) (rest : Bytes) : Char × Nat :=
  let b1 := rest.getD 0 0
  let b2 := rest.getD 1 0
  let b3 := rest.getD 2 0
  match utf8CharWidth b0 with
  | 1 => (Char.ofNat b0.toNat, 1)
  | 2 => if secondAllowed b0 b1 then (scalar (b0.toNat % 32) [b1], 2) else ('\uFFFD', 1)
  | 3 =>
    if !secondAllowed b0 b1 then ('\uFFFD', 1)
    else if !isContinuation b2 then ('\uFFFD', 2)
    else (scalar (b0.toNat % 16) [b1, b2], 3)
  | 4 =>
    if !secondAllowed b0 b1 then ('\uFFFD', 1)
    else if !isContinuation b2 then ('\uFFFD', 2)
    else if !isContinuation b3 then ('\uFFFD', 3)
    else (scalar (b0.toNat % 8) [b1, b2, b3], 4)
  | _ => ('\uFFFD', 1)

def lossyChars : Nat → Bytes → List Char
  | 0, _ => []
  | _ + 1, [] => []
  | fuel + 1, b0 :: rest =>
    let (c, n) := lossyStep b0 rest
    c :: lossyChars fuel (rest.drop (n - 1))

/-- `String::from_utf8_lossy`. -/
def fromUtf8Lossy (bs : Bytes) : String := String.ofList (lossyChars bs.length bs)

example : fromUtf8Lossy [0x61, 0xE2, 0x82, 0x62, 0xC3, 0xA9, 0xFF] = "a\uFFFDb\u00E9\uFFFD" := by
  decide

end TgWsProxy.Source.Std
