import TgWsProxy.Library.StreamCipher

/-!
# Streams that open with their own key

The octets of such a stream are eight that mean nothing, a key and an IV in the clear, and
from position 56 on, masked with the keystream of that key and IV, a tag of four octets, a
number of two, two more octets that mean nothing, and the text.

`ObfuscatedStream` is what a stream says. Each stream of at least 64 octets says one thing
(`exists_unique_encode`), and a part of the encoding belongs to each field, so that a field
is changed by rewriting its octets (`encode_withNumber`).
-/

set_option autoImplicit false

namespace TgWsProxy.Library

/-- The keystream of a key and an IV. -/
abbrev KeyedCipher := Bytes → Bytes → Keystream

structure ObfuscatedStream where
  lead : Bytes
  key : Bytes
  iv : Bytes
  tag : Bytes
  number : UInt16
  padding : Bytes
  text : Bytes
  lead_size : lead.length = 8
  key_size : key.length = 32
  iv_size : iv.length = 16
  tag_size : tag.length = 4
  padding_size : padding.length = 2

namespace ObfuscatedStream

variable (cipher : KeyedCipher)

/-- What is masked, from position 56 on. -/
def secret (o : ObfuscatedStream) : Bytes :=
  o.tag ++ toLE 2 o.number.toNat ++ o.padding ++ o.text

def front (o : ObfuscatedStream) : Bytes := o.lead ++ o.key ++ o.iv

def encode (o : ObfuscatedStream) : Bytes :=
  o.front ++ mask (cipher o.key o.iv) 56 o.secret

/-- The same stream with another number. -/
def withNumber (o : ObfuscatedStream) (number : UInt16) : ObfuscatedStream := { o with number := number }

theorem front_length (o : ObfuscatedStream) : o.front.length = 56 := by
  simp [front, o.lead_size, o.key_size, o.iv_size]

theorem secret_length (o : ObfuscatedStream) : o.secret.length = 8 + o.text.length := by
  simp only [secret, List.length_append, toLE_length, o.tag_size, o.padding_size]

theorem encode_length (o : ObfuscatedStream) : (o.encode cipher).length = 64 + o.text.length := by
  simp only [encode, List.length_append, mask_length, front_length, secret_length]
  omega

theorem encode_extract_key (o : ObfuscatedStream) : (o.encode cipher).extract 8 40 = o.key := by
  have hlead : o.lead.length = 8 := o.lead_size
  have hkey : o.key.length = 32 := o.key_size
  rw [encode, front, List.extract_eq_take_drop, List.append_assoc, List.append_assoc,
    List.drop_left' hlead, List.take_left' hkey]

theorem encode_extract_iv (o : ObfuscatedStream) : (o.encode cipher).extract 40 56 = o.iv := by
  have hfront : (o.lead ++ o.key).length = 40 := by simp [o.lead_size, o.key_size]
  have hiv : o.iv.length = 16 := o.iv_size
  rw [encode, front, List.extract_eq_take_drop, List.append_assoc, List.drop_left' hfront,
    List.take_left' hiv]

/-- With the keystream of the key and the IV that it carries, a stream decrypts to its fields. -/
theorem encode_secret (o : ObfuscatedStream) :
    mask (cipher o.key o.iv) 56 ((o.encode cipher).drop 56) = o.secret := by
  rw [encode, List.drop_left' o.front_length, mask_mask]

theorem secret_tag (o : ObfuscatedStream) : o.secret.take 4 = o.tag := by
  rw [secret, List.append_assoc, List.append_assoc, List.take_left' o.tag_size]

theorem secret_number (o : ObfuscatedStream) : o.secret.extract 4 6 = toLE 2 o.number.toNat := by
  rw [secret, List.extract_eq_take_drop, List.append_assoc, List.append_assoc, List.drop_left' o.tag_size,
    List.take_left' (toLE_length 2 _)]

theorem secret_text (o : ObfuscatedStream) : o.secret.drop 8 = o.text := by
  have hhead : (o.tag ++ toLE 2 o.number.toNat ++ o.padding).length = 8 := by
    simp [o.tag_size, o.padding_size]
  rw [secret, List.drop_left' hhead]

/-! ## Every stream that is long enough -/

/-- The fields of a stream, read off its octets. -/
def decode (stream : Bytes) (long : 64 ≤ stream.length) : ObfuscatedStream :=
  let key := stream.extract 8 40
  let iv := stream.extract 40 56
  let plain := mask (cipher key iv) 56 (stream.drop 56)
  { lead := stream.take 8
    key := key
    iv := iv
    tag := plain.take 4
    number := UInt16.ofNat (ofLE (plain.extract 4 6))
    padding := plain.extract 6 8
    text := plain.drop 8
    lead_size := by simp; omega
    key_size := by simp [key]; omega
    iv_size := by simp [iv]; omega
    tag_size := by simp [plain]; omega
    padding_size := by simp [plain]; omega }

theorem toLE_number (plain : Bytes) (long : 6 ≤ plain.length) :
    toLE 2 (UInt16.ofNat (ofLE (plain.extract 4 6))).toNat = plain.extract 4 6 := by
  have hlen : (plain.extract 4 6).length = 2 := by simp; omega
  have hlt := ofLE_lt (plain.extract 4 6)
  have hback := toLE_ofLE (plain.extract 4 6)
  rw [hlen] at hlt hback
  rw [UInt16.toNat_ofNat', Nat.mod_eq_of_lt (by omega), hback]

theorem take_append_extract (bs : Bytes) (i j : Nat) (h : i ≤ j) :
    bs.take i ++ bs.extract i j = bs.take j := by
  have hsplit := List.take_add (l := bs) (i := i) (j := j - i)
  rw [Nat.add_sub_cancel' h] at hsplit
  rw [hsplit, List.extract_eq_take_drop]

theorem decode_secret (stream : Bytes) (long : 64 ≤ stream.length) :
    (decode cipher stream long).secret =
      mask (cipher (stream.extract 8 40) (stream.extract 40 56)) 56 (stream.drop 56) := by
  have hlen : (mask (cipher (stream.extract 8 40) (stream.extract 40 56)) 56 (stream.drop 56)).length =
      stream.length - 56 := by simp
  simp only [secret, decode]
  generalize mask (cipher (stream.extract 8 40) (stream.extract 40 56)) 56 (stream.drop 56) = plain at hlen
  rw [toLE_number plain (by omega), take_append_extract plain 4 6 (by omega),
    take_append_extract plain 6 8 (by omega), List.take_append_drop]

theorem encode_decode (stream : Bytes) (long : 64 ≤ stream.length) :
    (decode cipher stream long).encode cipher = stream := by
  have hfront : (decode cipher stream long).front = stream.take 56 := by
    simp only [front, decode]
    rw [take_append_extract stream 8 40 (by omega), take_append_extract stream 40 56 (by omega)]
  rw [encode, hfront, decode_secret]
  simp only [decode, mask_mask, List.take_append_drop]

theorem encode_injective (a b : ObfuscatedStream) (h : a.encode cipher = b.encode cipher) : a = b := by
  have hkey : a.key = b.key := by rw [← a.encode_extract_key cipher, h, b.encode_extract_key cipher]
  have hiv : a.iv = b.iv := by rw [← a.encode_extract_iv cipher, h, b.encode_extract_iv cipher]
  have hsecret : a.secret = b.secret := by
    rw [← a.encode_secret cipher, ← b.encode_secret cipher, h, hkey, hiv]
  have hfront : a.front = b.front := by
    have htake := congrArg (List.take 56) h
    rwa [encode, encode, List.take_left' a.front_length, List.take_left' b.front_length] at htake
  have hlead : a.lead = b.lead := by
    have htake := congrArg (List.take 8) hfront
    rwa [front, front, List.append_assoc, List.append_assoc, List.take_left' a.lead_size,
      List.take_left' b.lead_size] at htake
  have htag : a.tag = b.tag := by rw [← a.secret_tag, hsecret, b.secret_tag]
  have htext : a.text = b.text := by rw [← a.secret_text, hsecret, b.secret_text]
  have hnumber : a.number = b.number := by
    have hfield : toLE 2 a.number.toNat = toLE 2 b.number.toNat := by
      rw [← a.secret_number, hsecret, b.secret_number]
    have hvalue := congrArg ofLE hfield
    rw [ofLE_toLE 2 _ a.number.toNat_lt, ofLE_toLE 2 _ b.number.toNat_lt] at hvalue
    exact UInt16.toNat_inj.mp hvalue
  have hpadding : a.padding = b.padding := by
    have hrest := hsecret
    simp only [secret, htag, hnumber, htext, List.append_assoc] at hrest
    simpa using hrest
  obtain ⟨lead, key, iv, tag, number, padding, text⟩ := a
  simp only at hlead hkey hiv htag hnumber hpadding htext
  subst hlead hkey hiv htag hnumber hpadding htext
  rfl

/-- A stream of at least 64 octets says one thing. -/
theorem exists_unique_encode (stream : Bytes) (long : 64 ≤ stream.length) :
    ∃ o : ObfuscatedStream, o.encode cipher = stream ∧ ∀ p : ObfuscatedStream,
      p.encode cipher = stream → p = o := by
  refine ⟨decode cipher stream long, encode_decode cipher stream long, fun p hp => ?_⟩
  exact encode_injective cipher p _ (hp.trans (encode_decode cipher stream long).symm)

/-! ## Rewriting one field -/

/-- Octets 60 and 61 carry the number, and no other octet does. -/
theorem encode_withNumber (o : ObfuscatedStream) (number : UInt16) :
    (o.withNumber number).encode cipher = (o.encode cipher).take 60 ++
      mask (cipher o.key o.iv) 60 (toLE 2 number.toNat) ++ (o.encode cipher).drop 62 := by
  have hsecret : ∀ n : UInt16, mask (cipher o.key o.iv) 56 (o.withNumber n).secret =
      mask (cipher o.key o.iv) 56 o.tag ++ mask (cipher o.key o.iv) 60 (toLE 2 n.toNat) ++
        mask (cipher o.key o.iv) 62 (o.padding ++ o.text) := by
    intro n
    simp only [withNumber, secret, List.append_assoc, mask_append, o.tag_size, toLE_length]
  have hwhole : ∀ n : UInt16, (o.withNumber n).encode cipher =
      (o.front ++ mask (cipher o.key o.iv) 56 o.tag) ++ mask (cipher o.key o.iv) 60 (toLE 2 n.toNat) ++
        mask (cipher o.key o.iv) 62 (o.padding ++ o.text) := by
    intro n
    rw [List.append_assoc, List.append_assoc, ← List.append_assoc (mask _ 56 o.tag), ← hsecret n]
    rfl
  have hfront : (o.front ++ mask (cipher o.key o.iv) 56 o.tag).length = 60 := by
    simp [o.front_length, o.tag_size]
  have hfield : (o.front ++ mask (cipher o.key o.iv) 56 o.tag ++
      mask (cipher o.key o.iv) 60 (toLE 2 o.number.toNat)).length = 62 := by
    simp [o.front_length, o.tag_size]
  have hown : o.encode cipher = (o.withNumber o.number).encode cipher := rfl
  have htake : (o.encode cipher).take 60 = o.front ++ mask (cipher o.key o.iv) 56 o.tag := by
    rw [hown, hwhole, List.append_assoc, List.take_left' hfront]
  have hdrop : (o.encode cipher).drop 62 = mask (cipher o.key o.iv) 62 (o.padding ++ o.text) := by
    rw [hown, hwhole, List.drop_left' hfield]
  rw [htake, hdrop, hwhole]

end ObfuscatedStream

end TgWsProxy.Library
