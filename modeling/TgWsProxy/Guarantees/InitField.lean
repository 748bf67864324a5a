import TgWsProxy.Source.Telegram.Splitter

/-!
# The data centre field of an init packet

What `extract_dc` reads is compared with the field as it is specified: a signed
number whose absolute value is a data centre from 1 to 5 and whose sign is the
media flag. The narrowing to an octet makes a data centre also of those larger
absolute values whose low octet is one, and of nothing else
(`extractDc_exact_iff`).

`patch_init_dc` writes that field and nothing else: not the tag, not the key or
the IV, so neither the reader nor the splitter sees another packet
(`patchInitDc_laws`).
-/

set_option autoImplicit false

namespace TgWsProxy.Guarantees.InitField
open Library Source.Telegram

variable (aes : Aes256)

/-! ## Reading the field -/

/-- The first four octets of a header are one of the transport tags. -/
def CarriesTag (plain : Bytes) : Prop :=
  plain.take 4 ∈ [List.replicate 4 0xEF, List.replicate 4 0xEE, List.replicate 4 0xDD]

instance (plain : Bytes) : Decidable (CarriesTag plain) := inferInstanceAs (Decidable (_ ∈ _))

/-- Octets 4 and 5 of a header as a signed little-endian number. -/
def fieldValue (plain : Bytes) : Int := (ofLE (plain.extract 4 6) : Int).bmod (2 ^ 16)

/-- The field as it is meant: absolute value and sign, from 1 to 5 or nothing. -/
def exactDc (data : Bytes) : TelegramInitInfo :=
  let value := fieldValue (initHeader aes data)
  if 64 ≤ data.length ∧ CarriesTag (initHeader aes data) ∧ 1 ≤ value.natAbs ∧ value.natAbs ≤ 5 then
    ⟨some (UInt8.ofNat value.natAbs), value < 0⟩
  else ⟨none, false⟩

/-- An absolute value that only the narrowing turns into a data centre. -/
def Wraps (value : Int) : Prop :=
  256 ≤ value.natAbs ∧ 1 ≤ value.natAbs % 256 ∧ value.natAbs % 256 ≤ 5

instance (value : Int) : Decidable (Wraps value) := inferInstanceAs (Decidable (_ ∧ _ ∧ _))

theorem headerDc_toInt (plain : Bytes) : (headerDc plain).toInt = fieldValue plain := by
  unfold headerDc fieldValue
  rw [UInt16.toInt16_ofNat', Int16.toInt_ofNat']
  rfl

theorem narrowDc_toNat (dcRaw : Int16) : (narrowDc dcRaw).toNat = dcRaw.toInt.natAbs % 256 := by
  unfold narrowDc
  rw [UInt16.toNat_toUInt8, UInt16.toNat_ofNat']
  omega

/-- Four octets are determined by their little-endian value. -/
theorem proto_eq_iff (plain : Bytes) (tag : Bytes) (h4 : 4 ≤ plain.length) (htag : tag.length = 4) :
    headerProto plain = UInt32.ofNat (ofLE tag) ↔ plain.take 4 = tag := by
  have hwindow : plain.extract 0 4 = plain.take 4 := by simp
  have hlen : (plain.take 4).length = 4 := by simp [h4]
  have hlt := ofLE_lt (plain.take 4)
  have htaglt := ofLE_lt tag
  rw [hlen] at hlt
  rw [htag] at htaglt
  unfold headerProto
  rw [hwindow]
  constructor
  · intro heq
    have hvalue : ofLE (plain.take 4) = ofLE tag := by
      have htoNat := congrArg UInt32.toNat heq
      rw [UInt32.toNat_ofNat', UInt32.toNat_ofNat'] at htoNat
      omega
    rw [← toLE_ofLE (plain.take 4), ← toLE_ofLE tag, hlen, htag, hvalue]
  · intro heq
    rw [heq]

theorem carriesTag_iff (plain : Bytes) (h4 : 4 ≤ plain.length) :
    CarriesTag plain ↔ isTransportTag (headerProto plain) = true := by
  have hef := proto_eq_iff plain (List.replicate 4 0xEF) h4 rfl
  have hee := proto_eq_iff plain (List.replicate 4 0xEE) h4 rfl
  have hdd := proto_eq_iff plain (List.replicate 4 0xDD) h4 rfl
  unfold CarriesTag isTransportTag
  simp only [List.mem_cons, List.not_mem_nil, or_false, ← hef, ← hee, ← hdd, Bool.or_eq_true,
    beq_iff_eq, or_assoc]
  rfl

/-- What the code reads, as conditions on the field's value. -/
theorem extractDc_eq (data : Bytes) (h : 64 ≤ data.length) :
    extractDc aes data =
      let value := fieldValue (initHeader aes data)
      if CarriesTag (initHeader aes data) ∧ 1 ≤ value.natAbs % 256 ∧ value.natAbs % 256 ≤ 5 then
        ⟨some (UInt8.ofNat value.natAbs), value < 0⟩
      else ⟨none, false⟩ := by
  have hlen := initHeader_length aes data h
  have hvalue := headerDc_toInt (initHeader aes data)
  have hnarrow := narrowDc_toNat (headerDc (initHeader aes data))
  rw [hvalue] at hnarrow
  have hsign : (headerDc (initHeader aes data) < 0) ↔ fieldValue (initHeader aes data) < 0 := by
    rw [Int16.lt_iff_toInt_lt, hvalue]
    rfl
  have hoctet : narrowDc (headerDc (initHeader aes data)) =
      UInt8.ofNat (fieldValue (initHeader aes data)).natAbs := by
    apply UInt8.toNat_inj.mp
    rw [hnarrow, UInt8.toNat_ofNat']
  have hknown : (1 ≤ narrowDc (headerDc (initHeader aes data)) ∧
        narrowDc (headerDc (initHeader aes data)) ≤ 5) ↔
      1 ≤ (fieldValue (initHeader aes data)).natAbs % 256 ∧
        (fieldValue (initHeader aes data)).natAbs % 256 ≤ 5 := by
    rw [UInt8.le_iff_toNat_le, UInt8.le_iff_toNat_le, hnarrow]
    rfl
  rw [hoctet] at hknown
  rw [extractDc, if_neg (by omega), decryptHeader_eq aes data h, Option.getD_some]
  dsimp only
  have htag := carriesTag_iff (initHeader aes data) (by omega)
  by_cases hcarries : CarriesTag (initHeader aes data)
  · simp only [htag.mp hcarries, hcarries, Bool.not_true, Bool.false_eq_true, if_false, hknown,
      true_and, hoctet, hsign]
  · rw [htag, Bool.not_eq_true] at hcarries
    simp only [htag, hcarries, Bool.not_false, if_true, Bool.false_eq_true, false_and, if_false]

/-- The code reads the field exactly on every input but the tagged packets whose field
only the narrowing turns into a data centre. -/
theorem extractDc_exact_iff (data : Bytes) :
    extractDc aes data = exactDc aes data ↔
      ¬ (64 ≤ data.length ∧ CarriesTag (initHeader aes data) ∧
        Wraps (fieldValue (initHeader aes data))) := by
  by_cases h : 64 ≤ data.length
  · rw [extractDc_eq aes data h]
    unfold exactDc Wraps
    by_cases hcarries : CarriesTag (initHeader aes data)
    · simp only [h, hcarries, true_and]
      by_cases hexact : 1 ≤ (fieldValue (initHeader aes data)).natAbs ∧
          (fieldValue (initHeader aes data)).natAbs ≤ 5
      · rw [if_pos hexact, if_pos (by omega)]
        simp only [true_iff]
        omega
      · rw [if_neg hexact]
        split
        · simp only [TelegramInitInfo.mk.injEq, reduceCtorEq, false_and, false_iff]
          omega
        · simp only [true_iff]
          omega
    · simp only [hcarries, false_and, and_false, if_false, not_false_iff]
  · have hshort : extractDc aes data = ⟨none, false⟩ := by rw [extractDc, if_pos (by omega)]
    rw [hshort, exactDc]
    simp only [h, false_and, if_false, not_false_iff]

/-- A tagged packet whose field is 257. -/
def wrappingInit : Bytes := patchInitDc sampleAes (sampleInit [0xEF, 0xEF, 0xEF, 0xEF]) 257

/-- It is read as data centre 1. -/
theorem extractDc_reads_257_as_one :
    wrappingInit.length = 64 ∧ CarriesTag (initHeader sampleAes wrappingInit) ∧
      fieldValue (initHeader sampleAes wrappingInit) = 257 ∧
      extractDc sampleAes wrappingInit = ⟨some 1, false⟩ ∧
      exactDc sampleAes wrappingInit = ⟨none, false⟩ := by
  decide +kernel

/-! ## Writing the field -/

/-- Octets are written back where the first patch took them from. -/
theorem patchInitDc_patchInitDc (data : Bytes) (dc dc' : Int16) (h : 64 ≤ data.length) :
    patchInitDc aes (patchInitDc aes data dc) dc' = patchInitDc aes data dc' := by
  have hlen := patchInitDc_length aes data dc h
  apply List.ext_getElem?
  intro i
  rw [patchInitDc_getElem? aes _ dc' (by omega), patchInitDc_getElem? aes data dc' h,
    patchInitDc_extract aes data dc h 8 40 (by omega),
    patchInitDc_extract aes data dc h 40 56 (by omega), patchInitDc_getElem? aes data dc h]
  by_cases h60 : i = 60
  · simp only [h60, if_true]
  · by_cases h61 : i = 61
    · simp only [h61, if_true]
    · simp only [h60, h61, if_false]

/-- The two octets of the field, as the header's value writes them. -/
theorem toLE_headerDc (plain : Bytes) (h6 : 6 ≤ plain.length) :
    toLE 2 (headerDc plain).toUInt16.toNat = plain.extract 4 6 := by
  have hlen : (plain.extract 4 6).length = 2 := by simp; omega
  have hlt := ofLE_lt (plain.extract 4 6)
  rw [hlen] at hlt
  have hvalue : (headerDc plain).toUInt16.toNat = ofLE (plain.extract 4 6) := by
    unfold headerDc
    rw [UInt16.toUInt16_toInt16, UInt16.toNat_ofNat']
    omega
  have hback := toLE_ofLE (plain.extract 4 6)
  rw [hlen] at hback
  rw [hvalue, hback]

/-- Patching in the value that is there changes nothing. -/
theorem patchInitDc_own (data : Bytes) (h : 64 ≤ data.length) :
    patchInitDc aes data (headerDc (initHeader aes data)) = data := by
  have hlen := initHeader_length aes data h
  have hoctet : ∀ k, k < 2 → (toLE 2 (headerDc (initHeader aes data)).toUInt16.toNat).getD k 0 =
      aes (data.extract 8 40) (data.extract 40 56) (60 + k) ^^^ data.getD (60 + k) 0 := by
    intro k hk
    have hlt : 56 + (4 + k) < data.length := by omega
    rw [toLE_headerDc (initHeader aes data) (by omega), initHeader]
    simp only [List.extract_eq_take_drop, List.getD_eq_getElem?_getD, List.getElem?_take,
      List.getElem?_drop, mask_getElem?, show 60 + k = 56 + (4 + k) by omega,
      List.getElem?_eq_getElem hlt, show k < 6 - 4 by omega, show 4 + k < 64 - 56 by omega,
      if_true, Option.map_some, Option.getD_some, UInt8.xor_comm]
  have hget : ∀ k, k < 2 → data[60 + k]? = some (data.getD (60 + k) 0) := by
    intro k hk
    rw [List.getD_eq_getElem?_getD, List.getElem?_eq_getElem (by omega), Option.getD_some]
  apply List.ext_getElem?
  intro i
  rw [patchInitDc_getElem? aes data _ h]
  split
  · rename_i h60
    rw [hoctet 0 (by omega), h60, hget 0 (by omega), UInt8.xor_comm, xor_xor_cancel_right]
  · split
    · rename_i h61
      rw [hoctet 1 (by omega), h61, hget 1 (by omega), UInt8.xor_comm, xor_xor_cancel_right]
    · rfl

theorem splitter_patchInitDc (data : Bytes) (dc : Int16) (h : 64 ≤ data.length) :
    MtProtoMessageSplitter.new aes (patchInitDc aes data dc) =
      MtProtoMessageSplitter.new aes data := by
  have hlen := patchInitDc_length aes data dc h
  rw [MtProtoMessageSplitter.new, MtProtoMessageSplitter.new, if_neg (by omega), if_neg (by omega),
    patchInitDc_extract aes data dc h 8 40 (by omega),
    patchInitDc_extract aes data dc h 40 56 (by omega)]

/-- A tagged packet reads back as the data centre that was patched in. -/
theorem extractDc_patchInitDc (data : Bytes) (dc : Int16) (h : 64 ≤ data.length)
    (carries : CarriesTag (initHeader aes data)) (low : 1 ≤ dc.toInt.natAbs)
    (high : dc.toInt.natAbs ≤ 5) :
    extractDc aes (patchInitDc aes data dc) =
      ⟨some (UInt8.ofNat dc.toInt.natAbs), dc.toInt < 0⟩ := by
  have hlen := patchInitDc_length aes data dc h
  have hvalue : fieldValue (initHeader aes (patchInitDc aes data dc)) = dc.toInt := by
    rw [← headerDc_toInt, headerDc_patchInitDc aes data dc h]
  have hplain := initHeader_length aes data h
  have hpatched := initHeader_length aes (patchInitDc aes data dc) (by omega)
  have htag : CarriesTag (initHeader aes (patchInitDc aes data dc)) := by
    rw [carriesTag_iff _ (by omega)] at carries ⊢
    rw [headerProto_patchInitDc aes data dc h]
    exact carries
  rw [extractDc_eq aes _ (by omega)]
  dsimp only
  rw [hvalue, if_pos ⟨htag, by omega⟩]

/-- The laws of `patch_init_dc`: it writes octets 60 and 61, so that the field decrypts
to `dc`; the last write counts, and writing the old value undoes it. -/
theorem patchInitDc_laws (data : Bytes) (dc : Int16) :
    (64 ≤ data.length →
      (patchInitDc aes data dc).length = data.length ∧
      (∀ i, i ≠ 60 → i ≠ 61 → (patchInitDc aes data dc)[i]? = data[i]?) ∧
      decryptHeader aes (patchInitDc aes data dc) = (decryptHeader aes data).map (fun plain =>
        plain.take 4 ++ toLE 2 dc.toUInt16.toNat ++ plain.drop 6) ∧
      (CarriesTag (initHeader aes data) → 1 ≤ dc.toInt.natAbs ∧ dc.toInt.natAbs ≤ 5 →
        extractDc aes (patchInitDc aes data dc) =
          ⟨some (UInt8.ofNat dc.toInt.natAbs), dc.toInt < 0⟩) ∧
      (∀ dc', patchInitDc aes (patchInitDc aes data dc) dc' = patchInitDc aes data dc') ∧
      patchInitDc aes (patchInitDc aes data dc) (headerDc (initHeader aes data)) = data ∧
      MtProtoMessageSplitter.new aes (patchInitDc aes data dc) =
        MtProtoMessageSplitter.new aes data ∧
      (MtProtoMessageSplitter.new aes data).isSome) ∧
    (data.length < 64 → patchInitDc aes data dc = data) := by
  constructor
  · intro h
    have hlen := patchInitDc_length aes data dc h
    refine ⟨hlen, ?_, ?_, ?_, ?_, ?_, splitter_patchInitDc aes data dc h, ?_⟩
    · intro i h60 h61
      rw [patchInitDc_getElem? aes data dc h, if_neg h60, if_neg h61]
    · rw [decryptHeader_eq aes data h, decryptHeader_eq aes _ (by omega), Option.map_some,
        initHeader_patchInitDc aes data dc h]
    · intro carries known
      exact extractDc_patchInitDc aes data dc h carries known.1 known.2
    · intro dc'
      exact patchInitDc_patchInitDc aes data dc dc' h
    · rw [patchInitDc_patchInitDc aes data dc _ h, patchInitDc_own aes data h]
    · rw [MtProtoMessageSplitter.new, if_neg (by omega), newFromSlices_init data h]
      rfl
  · intro h
    rw [patchInitDc, if_pos h]

/-- The packet of the sample, patched to the media side of data centre 3. -/
theorem patchInitDc_laws_sample :
    extractDc sampleAes (patchInitDc sampleAes (sampleInit [0xEE, 0xEE, 0xEE, 0xEE]) (-3)) =
        ⟨some 3, true⟩ ∧
      patchInitDc sampleAes (patchInitDc sampleAes (sampleInit [0xEE, 0xEE, 0xEE, 0xEE]) (-3))
          (headerDc (initHeader sampleAes (sampleInit [0xEE, 0xEE, 0xEE, 0xEE]))) =
        sampleInit [0xEE, 0xEE, 0xEE, 0xEE] ∧
      patchInitDc sampleAes [1, 2, 3] 2 = [1, 2, 3] := by
  have hlaws := (patchInitDc_laws sampleAes (sampleInit [0xEE, 0xEE, 0xEE, 0xEE]) (-3)).1 (by decide)
  have hread := hlaws.2.2.2.1 (by decide) (by decide)
  exact ⟨hread, hlaws.2.2.2.2.2.1, (patchInitDc_laws sampleAes [1, 2, 3] 2).2 (by decide)⟩

end TgWsProxy.Guarantees.InitField
