import TgWsProxy.Library.StreamCipher

/-!
# Obfuscated init packet

`modules/telegram/init.rs`. The cipher crate enters as the keystream octet it
yields for a key, an IV and a position (`Aes256`); everything the program does
with that keystream is modelled: where it is read, which octets are decrypted
and which are written back.

The DC field is read through `i16::unsigned_abs` and a narrowing `as u8`, which
drops the high octet of the absolute value.
-/

set_option autoImplicit false

namespace TgWsProxy.Source.Telegram
open Library

/-- Keystream octet of AES-256 in counter mode for a key, an IV and a position. -/
abbrev Aes256 := Bytes → Bytes → Nat → UInt8

/-- A cipher in use: its key, its IV and the next keystream position. -/
structure Aes256Ctr where
  key : Bytes
  iv : Bytes
  pos : Nat
  deriving DecidableEq, Repr

def Aes256Ctr.newFromSlices (key iv : Bytes) : Option Aes256Ctr :=
  if key.length = 32 ∧ iv.length = 16 then some ⟨key, iv, 0⟩ else none

def Aes256Ctr.applyKeystream (aes : Aes256) (c : Aes256Ctr) (data : Bytes) : Bytes × Aes256Ctr :=
  (mask (aes c.key c.iv) c.pos data, { c with pos := c.pos + data.length })

structure TelegramInitInfo where
  dc : Option UInt8
  isMedia : Bool
  deriving DecidableEq, Repr

variable (aes : Aes256)

/-- The first 64 keystream octets under the key and IV that the packet carries. -/
def keystream (data : Bytes) : Option Bytes := do
  let key := data.extract 8 40
  let iv := data.extract 40 56
  let cipher ← Aes256Ctr.newFromSlices key iv
  return (cipher.applyKeystream aes (List.replicate 64 0)).1

def decryptHeader (data : Bytes) : Option Bytes := do
  let stream ← keystream aes data
  return (List.range 8).map fun idx => data.getD (56 + idx) 0 ^^^ stream.getD (56 + idx) 0

def headerProto (plain : Bytes) : UInt32 := UInt32.ofNat (ofLE (plain.extract 0 4))

def headerDc (plain : Bytes) : Int16 := (UInt16.ofNat (ofLE (plain.extract 4 6))).toInt16

/-- The three transport tags: abridged, intermediate, padded intermediate. -/
def isTransportTag (proto : UInt32) : Bool :=
  proto == 0xEFEFEFEF || proto == 0xEEEEEEEE || proto == 0xDDDDDDDD

/-- `dc_raw.unsigned_abs() as u8`. -/
def narrowDc (dcRaw : Int16) : UInt8 := (UInt16.ofNat dcRaw.toInt.natAbs).toUInt8

def extractDc (data : Bytes) : TelegramInitInfo :=
  if data.length < 64 then ⟨none, false⟩
  else
    let plain := (decryptHeader aes data).getD (List.replicate 8 0)
    if !isTransportTag (headerProto plain) then ⟨none, false⟩
    else
      let dcRaw := headerDc plain
      let dc := narrowDc dcRaw
      if 1 ≤ dc ∧ dc ≤ 5 then ⟨some dc, dcRaw < 0⟩ else ⟨none, false⟩

def patchInitDc (data : Bytes) (dc : Int16) : Bytes :=
  if data.length < 64 then data
  else
    match keystream aes data with
    | none => data
    | some stream =>
      let dcBytes := toLE 2 dc.toUInt16.toNat
      let out := ((data.take 64).set 60 (stream.getD 60 0 ^^^ dcBytes.getD 0 0)).set 61
        (stream.getD 61 0 ^^^ dcBytes.getD 1 0)
      out ++ data.drop 64

theorem newFromSlices_init (data : Bytes) (h : 64 ≤ data.length) :
    Aes256Ctr.newFromSlices (data.extract 8 40) (data.extract 40 56) =
      some ⟨data.extract 8 40, data.extract 40 56, 0⟩ := by
  have hk : (data.extract 8 40).length = 32 := by simp; omega
  have hi : (data.extract 40 56).length = 16 := by simp; omega
  rw [Aes256Ctr.newFromSlices, if_pos ⟨hk, hi⟩]

/-- A packet long enough to carry a key and an IV always has a keystream. -/
theorem keystream_eq (data : Bytes) (h : 64 ≤ data.length) :
    keystream aes data =
      some (mask (aes (data.extract 8 40) (data.extract 40 56)) 0 (List.replicate 64 0)) := by
  simp [keystream, newFromSlices_init data h, Aes256Ctr.applyKeystream]

/-- The header octets are the packet's own, decrypted in place. -/
def initHeader (data : Bytes) : Bytes :=
  mask (aes (data.extract 8 40) (data.extract 40 56)) 56 (data.extract 56 64)

theorem mask_zero_getD (ks : Keystream) (n i : Nat) (h : i < n) :
    (mask ks 0 (List.replicate n 0)).getD i 0 = ks i := by
  rw [List.getD_eq_getElem?_getD, mask_getElem?]
  simp [h]

theorem decryptHeader_eq (data : Bytes) (h : 64 ≤ data.length) :
    decryptHeader aes data = some (initHeader aes data) := by
  simp only [decryptHeader, keystream_eq aes data h, Option.bind_eq_bind, Option.bind_some,
    Option.pure_def, Option.some.injEq, initHeader]
  apply List.ext_getElem?
  intro i
  rw [mask_getElem?, List.getElem?_map]
  by_cases hi : i < 8
  · have hlt : 56 + i < data.length := by omega
    have hks := mask_zero_getD (aes (data.extract 8 40) (data.extract 40 56)) 64 (56 + i) (by omega)
    have hext : (data.extract 56 64)[i]? = some data[56 + i] := by simp [hi, hlt]
    have hget : data.getD (56 + i) 0 = data[56 + i] := by simp [hlt]
    rw [List.getElem?_range hi, Option.map_some, hks, hext, Option.map_some, hget]
  · have hrange : (List.range 8)[i]? = none := by simp; omega
    have hext : (data.extract 56 64)[i]? = none := by simp; omega
    rw [hrange, hext]
    rfl

theorem initHeader_length (data : Bytes) (h : 64 ≤ data.length) :
    (initHeader aes data).length = 8 := by
  simp [initHeader]
  omega

/-- Every octet of a patched packet: positions 60 and 61 carry the encrypted
field, all others are the input's. -/
theorem patchInitDc_getElem? (data : Bytes) (dc : Int16) (h : 64 ≤ data.length) (i : Nat) :
    (patchInitDc aes data dc)[i]? =
      if i = 60 then
        some (aes (data.extract 8 40) (data.extract 40 56) 60 ^^^ (toLE 2 dc.toUInt16.toNat).getD 0 0)
      else if i = 61 then
        some (aes (data.extract 8 40) (data.extract 40 56) 61 ^^^ (toLE 2 dc.toUInt16.toNat).getD 1 0)
      else data[i]? := by
  have h60 := mask_zero_getD (aes (data.extract 8 40) (data.extract 40 56)) 64 60 (by omega)
  have h61 := mask_zero_getD (aes (data.extract 8 40) (data.extract 40 56)) 64 61 (by omega)
  rw [patchInitDc, if_neg (by omega), keystream_eq aes data h]
  simp only [h60, h61]
  by_cases hi : i < 64
  · rw [List.getElem?_append_left (by simp; omega), List.getElem?_set, List.getElem?_set]
    simp only [List.length_set, List.length_take, List.getElem?_take, hi, if_true]
    grind
  · rw [List.getElem?_append_right (by simp; omega)]
    simp only [List.length_set, List.length_take, List.getElem?_drop]
    grind

theorem patchInitDc_length (data : Bytes) (dc : Int16) (h : 64 ≤ data.length) :
    (patchInitDc aes data dc).length = data.length := by
  rw [patchInitDc, if_neg (by omega), keystream_eq aes data h]
  simp
  omega

/-- Windows that avoid the DC field are the input's: the key and the IV survive. -/
theorem patchInitDc_extract (data : Bytes) (dc : Int16) (h : 64 ≤ data.length) (i j : Nat)
    (hj : j ≤ 60) : (patchInitDc aes data dc).extract i j = data.extract i j := by
  apply List.ext_getElem?
  intro k
  simp only [List.extract_eq_take_drop, List.getElem?_take, List.getElem?_drop,
    patchInitDc_getElem? aes data dc h]
  grind

/-- Patching replaces octets 4 and 5 of the decrypted header and nothing else. -/
theorem initHeader_patchInitDc (data : Bytes) (dc : Int16) (h : 64 ≤ data.length) :
    initHeader aes (patchInitDc aes data dc) =
      (initHeader aes data).take 4 ++ toLE 2 dc.toUInt16.toNat ++ (initHeader aes data).drop 6 := by
  have hlen := initHeader_length aes data h
  have hpatch := patchInitDc_getElem? aes data dc h
  rw [initHeader, patchInitDc_extract aes data dc h 8 40 (by omega),
    patchInitDc_extract aes data dc h 40 56 (by omega)]
  rw [initHeader] at hlen ⊢
  generalize aes (data.extract 8 40) (data.extract 40 56) = ks at hlen hpatch ⊢
  have hwindow : ∀ (bs : Bytes) (i : Nat), (mask ks 56 (bs.extract 56 64))[i]? =
      if i < 8 then bs[56 + i]?.map (· ^^^ ks (56 + i)) else none := by
    intro bs i
    simp only [mask_getElem?, List.extract_eq_take_drop, List.getElem?_take, List.getElem?_drop]
    split <;> rfl
  apply List.ext_getElem?
  intro i
  rw [hwindow]
  by_cases h4 : i < 4
  · rw [List.append_assoc, List.getElem?_append_left (by rw [List.length_take]; omega),
      List.getElem?_take_of_lt h4, hwindow, hpatch]
    simp only [show ¬ 56 + i = 60 by omega, show ¬ 56 + i = 61 by omega, if_false]
  by_cases h6 : i < 6
  · rw [List.getElem?_append_left (by simp [hlen]; omega),
      List.getElem?_append_right (by simp; omega)]
    obtain rfl | rfl : i = 4 ∨ i = 5 := by omega
    · simp [hpatch, hlen, toLE]
    · simp [hpatch, hlen, toLE]
  · rw [List.getElem?_append_right (by simp [hlen]; omega), List.getElem?_drop, hwindow, hpatch]
    have hsub : 6 + (i - ((mask ks 56 (data.extract 56 64)).take 4 ++
        toLE 2 dc.toUInt16.toNat).length) = i := by
      simp only [List.length_append, List.length_take, hlen, toLE_length]
      omega
    rw [hsub]
    simp only [show ¬ 56 + i = 60 by omega, show ¬ 56 + i = 61 by omega, if_false]

/-- The tag is not part of what a patch writes. -/
theorem headerProto_patchInitDc (data : Bytes) (dc : Int16) (h : 64 ≤ data.length) :
    headerProto (initHeader aes (patchInitDc aes data dc)) = headerProto (initHeader aes data) := by
  have hlen := initHeader_length aes data h
  rw [initHeader_patchInitDc aes data dc h, headerProto, headerProto]
  congr 2
  rw [List.append_assoc, List.extract_eq_take_drop, List.extract_eq_take_drop, List.drop_zero,
    List.drop_zero, List.take_append_of_le_length (by rw [List.length_take]; omega), List.take_take]
  rfl

/-- The patched packet decrypts to the field that was put in. -/
theorem headerDc_patchInitDc (data : Bytes) (dc : Int16) (h : 64 ≤ data.length) :
    headerDc (initHeader aes (patchInitDc aes data dc)) = dc := by
  have hlen := initHeader_length aes data h
  have hfield : ((initHeader aes data).take 4 ++ toLE 2 dc.toUInt16.toNat ++
      (initHeader aes data).drop 6).extract 4 6 = toLE 2 dc.toUInt16.toNat := by
    have htake : ((initHeader aes data).take 4).length = 4 := by rw [List.length_take]; omega
    rw [List.append_assoc, List.extract_eq_take_drop, List.drop_left' htake,
      List.take_left' (toLE_length 2 _)]
  rw [initHeader_patchInitDc aes data dc h, headerDc, hfield,
    ofLE_toLE 2 _ dc.toUInt16.toNat_lt]
  simp

theorem extractDc_of_untagged (data : Bytes) (h : 64 ≤ data.length)
    (untagged : isTransportTag (headerProto (initHeader aes data)) = false) :
    extractDc aes data = ⟨none, false⟩ := by
  rw [extractDc, if_neg (by omega), decryptHeader_eq aes data h]
  simp [untagged]

theorem extractDc_of_tagged (data : Bytes) (h : 64 ≤ data.length)
    (tagged : isTransportTag (headerProto (initHeader aes data)) = true)
    (known : 1 ≤ narrowDc (headerDc (initHeader aes data)) ∧
      narrowDc (headerDc (initHeader aes data)) ≤ 5) :
    extractDc aes data =
      ⟨some (narrowDc (headerDc (initHeader aes data))), headerDc (initHeader aes data) < 0⟩ := by
  rw [extractDc, if_neg (by omega), decryptHeader_eq aes data h]
  simp [tagged, known]

/-! ## A sample packet -/

/-- First octets of the AES-256-CTR keystream for the key `01…01` and the IV `02…02`
of the source's own splitter test. -/
def sampleOctets : Bytes :=
  [0x62, 0xAE, 0x12, 0xF3, 0x24, 0xBF, 0xEA, 0x08, 0xD5, 0xF6, 0x75, 0xB5, 0x13, 0x02, 0x6B, 0xBF,
   0xA5, 0xAD, 0xD0, 0x54, 0x9F, 0x39, 0x89, 0x6D, 0x4B, 0x28, 0x4E, 0xC8, 0xF4, 0xA6, 0xB2, 0x76,
   0x01, 0x12, 0xE2, 0xE7, 0x01, 0x66, 0x22, 0xB7, 0x7C, 0xD5, 0x50, 0x6C, 0x8D, 0x6A, 0x63, 0xBF,
   0x99, 0x23, 0x0A, 0x64, 0xF1, 0x2B, 0x34, 0x3A, 0xCD, 0xD4, 0x00, 0x12, 0x88, 0x99, 0x56, 0x42,
   0x15, 0x53, 0x1B, 0xBD, 0xF8, 0x81, 0xE5, 0x81, 0xAE, 0xD7, 0x99, 0x23, 0xE1, 0xC6, 0x3A, 0x91,
   0x66, 0xF0, 0xD7, 0xE1, 0x69, 0xCC, 0x3B, 0x26, 0x85, 0xAF, 0x33, 0x86, 0xDE, 0xFF, 0xD3, 0xC3]

def sampleKey : Bytes := List.replicate 32 1

def sampleIv : Bytes := List.replicate 16 2

def sampleAes : Aes256 := fun key iv pos =>
  if key = sampleKey ∧ iv = sampleIv then sampleOctets.getD pos 0 else 0

/-- An init packet under that key and IV whose decrypted header starts with `tag`. -/
def sampleInit (tag : Bytes) : Bytes :=
  List.replicate 8 0 ++ sampleKey ++ sampleIv ++
    mask (sampleAes sampleKey sampleIv) 56 (tag ++ [2, 0, 0, 0])

end TgWsProxy.Source.Telegram
