import TgWsProxy.Library.Io
import TgWsProxy.Library.StreamCipher
import TgWsProxy.Source.Std.Utf8

/-!
# WebSocket frames

The codec of `modules/ws.rs`: `build_frame_with_opcode`, `read_frame`,
`parse_close_payload` and `RawWsReader::recv_frame`. The mask key a frame is
built with is the random generator's answer, or a fixed key when it fails.

`read_frame` decodes more than the writer produces: any first octet, masked or
not, and any of the three length forms for any length that fits it. `WireFrame`
is that layout, `readFrame_encode` reads it back, and a built frame is a masked
one in the shortest form (`buildFrame_eq_encode`).
-/

set_option autoImplicit false

namespace TgWsProxy.Source.Ws
open Library Library.Io Source.Std

structure WsCloseInfo where
  code : Option UInt16
  reason : Option String
  deriving DecidableEq, Repr

inductive WsError where
  | handshake (reason : String)
  | httpStatus (status : UInt16) (location : Option String)
  | io (err : IoError)
  | tls (reason : String)
  | timeout
  deriving DecidableEq, Repr

inductive WsFrame where
  | binary (payload : Bytes)
  | ping (payload : Bytes)
  | pong (payload : Bytes)
  | close (info : WsCloseInfo)
  | other (payload : Bytes)
  deriving DecidableEq, Repr

inductive WsIncoming where
  | binary (payload : Bytes)
  | ping (payload : Bytes)
  | close (info : WsCloseInfo)
  deriving DecidableEq, Repr

/-- A read either fails with the program's own error or stops it. -/
inductive Stop where
  | error (err : WsError)
  | panic (why : Panic)
  deriving DecidableEq, Repr

/-- Four octets, repeated along a payload. -/
structure MaskKey where
  octets : Bytes
  size : octets.length = 4
  deriving DecidableEq, Repr

def MaskKey.stream (key : MaskKey) : Keystream := fun idx => key.octets.getD (idx % 4) 0

def fallbackKey : MaskKey := ⟨[0x11, 0x22, 0x33, 0x44], rfl⟩

def buildFrameWithOpcode (random : Option MaskKey) (opcode : UInt8) (payload : Bytes) : Bytes :=
  let header :=
    if payload.length < 126 then [0x80 ||| UInt8.ofNat payload.length]
    else if payload.length ≤ 65535 then (0x80 ||| 126) :: toBE 2 payload.length
    else (0x80 ||| 127) :: toBE 8 payload.length
  let key := random.getD fallbackKey
  (0x80 ||| (opcode &&& 0x0F)) :: header ++ key.octets ++ mask key.stream 0 payload

def buildFrame (random : Option MaskKey) (payload : Bytes) : Bytes :=
  buildFrameWithOpcode random 0x2 payload

def usizeMax : Nat := 2 ^ 64 - 1

def isizeMax : Nat := 2 ^ 63 - 1

def parseClosePayload (payload : Bytes) : WsCloseInfo :=
  if payload.length < 2 then ⟨none, none⟩
  else
    let code := some (UInt16.ofNat (ofBE [payload.getD 0 0, payload.getD 1 0]))
    let reason := if payload.length > 2 then some (fromUtf8Lossy (payload.drop 2)) else none
    ⟨code, reason⟩

/-- `read_exact(..).await?` in a function that returns `WsError`. -/
def readOrFail (n : Nat) : Io Stop Bytes := readExact (.error (.io .unexpectedEof)) n

/-- The length after the seven bits of the second octet, as `u64`. -/
def readLength (second : UInt8) : Io Stop Nat :=
  let len := (second &&& 0x7f).toNat
  if len = 126 then do
    let ext ← readOrFail 2
    return ofBE ext
  else if len = 127 then do
    let ext ← readOrFail 8
    return ofBE ext
  else return len

/-- `usize::try_from(len)`. -/
def payloadLength (len : Nat) : Io Stop Nat :=
  if len ≤ usizeMax then return len else fail (.error (.handshake "frame too large"))

def readMask (second : UInt8) : Io Stop Bytes :=
  if second &&& 0x80 ≠ 0 then readOrFail 4 else return [0, 0, 0, 0]

/-- `vec![0u8; n]`. The allocator is taken to serve every length up to `isize::MAX`. -/
def allocate (n : Nat) : Io Stop Unit :=
  if n ≤ isizeMax then return () else fail (.panic .capacityOverflow)

/-- The tests on the opcode, in the source's order. -/
def frameOf (opcode : UInt8) (payload : Bytes) : WsFrame :=
  if opcode = 0x8 then .close (parseClosePayload payload)
  else if opcode = 0x9 then .ping payload
  else if opcode = 0xA then .pong payload
  else if opcode = 0x0 ∨ opcode = 0x1 ∨ opcode = 0x2 then .binary payload
  else .other payload

def readFrame : Io Stop (Option WsFrame) := do
  match ← attempt (readExact IoError.unexpectedEof 2) with
  | .error .unexpectedEof => return none
  | .error err => fail (.error (.io err))
  | .ok hdr =>
    let opcode := hdr.getD 0 0 &&& 0x0f
    let second := hdr.getD 1 0
    let len ← readLength second
    let size ← payloadLength len
    let key ← readMask second
    allocate size
    let payload ← readOrFail size
    let plain := if second &&& 0x80 ≠ 0 then mask (fun idx => key.getD (idx % 4) 0) 0 payload
      else payload
    return some (frameOf opcode plain)

/-- `RawWsReader::recv_frame`; the fuel bounds the frames skipped. -/
def recvFrameWithin : Nat → Io Stop (Option WsIncoming)
  | 0 => return none
  | fuel + 1 => do
    match ← readFrame with
    | some (.binary payload) => return some (.binary payload)
    | some (.ping payload) => return some (.ping payload)
    | some (.pong _) => recvFrameWithin fuel
    | some (.close info) => return some (.close info)
    | some (.other _) => return some (.close ⟨none, some "unexpected_ws_frame"⟩)
    | none => return none

/-- Every frame has two octets, so this fuel is never used up. -/
def recvFrame : Io Stop (Option WsIncoming) :=
  ⟨fun s => (recvFrameWithin (s.input.length + 1)).run s⟩

/-! ## The layout that `read_frame` decodes -/

inductive LengthForm where
  | short | medium | long
  deriving DecidableEq, Repr

def LengthForm.fits (form : LengthForm) (n : Nat) : Prop :=
  match form with
  | .short => n < 126
  | .medium => n < 2 ^ 16
  | .long => n < 2 ^ 64

instance (form : LengthForm) (n : Nat) : Decidable (form.fits n) := by
  cases form <;> exact inferInstanceAs (Decidable (n < _))

/-- The low seven bits of the second octet. -/
def LengthForm.lead (form : LengthForm) (n : Nat) : UInt8 :=
  match form with
  | .short => UInt8.ofNat n
  | .medium => 126
  | .long => 127

def LengthForm.extension (form : LengthForm) (n : Nat) : Bytes :=
  match form with
  | .short => []
  | .medium => toBE 2 n
  | .long => toBE 8 n

/-- What stands in front of a payload: any first octet, its length in a form that fits it,
and the mask key if there is one. -/
structure FrameHeader where
  first : UInt8
  form : LengthForm
  length : Nat
  key : Option MaskKey
  fits : form.fits length

namespace FrameHeader

def second (h : FrameHeader) : UInt8 :=
  (if h.key.isSome then 0x80 else 0) ||| h.form.lead h.length

def keyOctets (h : FrameHeader) : Bytes :=
  match h.key with
  | some key => key.octets
  | none => []

def encode (h : FrameHeader) : Bytes :=
  h.first :: h.second :: (h.form.extension h.length ++ h.keyOctets)

/-- What a payload is masked with. -/
def unmask (h : FrameHeader) (sent : Bytes) : Bytes :=
  match h.key with
  | some key => mask key.stream 0 sent
  | none => sent

theorem encode_length (h : FrameHeader) : 2 ≤ h.encode.length := by
  simp [encode]

theorem length_lt (h : FrameHeader) : h.length < 2 ^ 64 := by
  have hfits := h.fits
  cases hform : h.form <;> simp only [hform, LengthForm.fits] at hfits <;> omega

end FrameHeader

/-- A frame on the wire: any first octet, a length form that fits, and a payload
of a size that can be held. -/
structure WireFrame where
  first : UInt8
  form : LengthForm
  key : Option MaskKey
  payload : Bytes
  fits : form.fits payload.length
  held : payload.length ≤ isizeMax

namespace WireFrame

def second (f : WireFrame) : UInt8 :=
  (if f.key.isSome then 0x80 else 0) ||| f.form.lead f.payload.length

/-- The mask key if there is one, and the payload as sent. -/
def body (f : WireFrame) : Bytes :=
  match f.key with
  | some key => key.octets ++ mask key.stream 0 f.payload
  | none => f.payload

def encode (f : WireFrame) : Bytes :=
  f.first :: f.second :: (f.form.extension f.payload.length ++ f.body)

/-- What the reader makes of it. -/
def frame (f : WireFrame) : WsFrame := frameOf (f.first &&& 0x0f) f.payload

theorem encode_length (f : WireFrame) : 2 ≤ f.encode.length := by
  simp [encode]

theorem encode_pos (f : WireFrame) : 0 < f.encode.length := Nat.lt_of_lt_of_le Nat.two_pos f.encode_length

end WireFrame

/-- The mask bit and the seven length bits do not meet. -/
theorem second_bits : ∀ lead : Fin 128,
    (0x80 ||| UInt8.ofNat lead) &&& 0x7f = UInt8.ofNat lead ∧
    (0 ||| UInt8.ofNat lead) &&& 0x7f = UInt8.ofNat lead ∧
    (0x80 ||| UInt8.ofNat lead) &&& 0x80 ≠ 0 ∧ (0 ||| UInt8.ofNat lead) &&& 0x80 = 0 := by
  decide

theorem LengthForm.lead_lt (form : LengthForm) (n : Nat) (h : form.fits n) :
    ∃ lead : Fin 128, form.lead n = UInt8.ofNat lead := by
  cases form with
  | short => exact ⟨⟨n, by simp only [fits] at h; omega⟩, rfl⟩
  | medium => exact ⟨126, rfl⟩
  | long => exact ⟨127, rfl⟩

theorem FrameHeader.second_low (h : FrameHeader) : h.second &&& 0x7f = h.form.lead h.length := by
  obtain ⟨lead, hlead⟩ := h.form.lead_lt h.length h.fits
  rw [second, hlead]
  cases h.key with
  | none => exact (second_bits lead).2.1
  | some key => exact (second_bits lead).1

theorem FrameHeader.second_masked (h : FrameHeader) : h.second &&& 0x80 ≠ 0 ↔ h.key.isSome := by
  obtain ⟨lead, hlead⟩ := h.form.lead_lt h.length h.fits
  rw [second, hlead]
  cases h.key with
  | none => simpa using (second_bits lead).2.2.2
  | some key => simpa using (second_bits lead).2.2.1

def WireFrame.header (f : WireFrame) : FrameHeader := ⟨f.first, f.form, f.payload.length, f.key, f.fits⟩

/-- A frame is its header and the payload as sent. -/
theorem WireFrame.encode_eq (f : WireFrame) :
    f.encode = f.header.encode ++ f.header.unmask f.payload := by
  cases hkey : f.key with
  | none => simp [encode, body, second, FrameHeader.encode, FrameHeader.second, FrameHeader.keyOctets,
      FrameHeader.unmask, header, hkey]
  | some key => simp [encode, body, second, FrameHeader.encode, FrameHeader.second,
      FrameHeader.keyOctets, FrameHeader.unmask, header, hkey]

theorem FrameHeader.unmask_length (h : FrameHeader) (sent : Bytes) :
    (h.unmask sent).length = sent.length := by
  unfold unmask
  split
  · exact mask_length _ _ _
  · rfl

theorem FrameHeader.unmask_unmask (h : FrameHeader) (sent : Bytes) :
    h.unmask (h.unmask sent) = sent := by
  unfold unmask
  split
  · exact mask_mask _ _ _
  · rfl

/-- All three length forms read back the length they announce. -/
theorem readLength_extension (form : LengthForm) (n : Nat) (second : UInt8) (rest out : Bytes)
    (fits : form.fits n) (low : second &&& 0x7f = form.lead n) :
    (readLength second).run ⟨form.extension n ++ rest, out⟩ = (.ok n, ⟨rest, out⟩) := by
  unfold readLength
  rw [low]
  cases form with
  | short =>
    simp only [LengthForm.fits] at fits
    have hlead : (LengthForm.short.lead n).toNat = n := by
      simp only [LengthForm.lead, UInt8.toNat_ofNat']
      omega
    simp only [hlead]
    rw [if_neg (by omega), if_neg (by omega)]
    rfl
  | medium =>
    simp only [LengthForm.fits] at fits
    have hlead : (LengthForm.medium.lead n).toNat = 126 := rfl
    simp only [hlead]
    rw [if_pos trivial, LengthForm.extension, readOrFail,
      bind_of_ok (readExact_append _ (toBE 2 n) rest out 2 (toBE_length 2 n)),
      ofBE_toBE 2 n (by omega)]
    rfl
  | long =>
    simp only [LengthForm.fits] at fits
    have hlead : (LengthForm.long.lead n).toNat = 127 := rfl
    simp only [hlead]
    rw [if_neg (by decide), if_pos trivial, LengthForm.extension, readOrFail,
      bind_of_ok (readExact_append _ (toBE 8 n) rest out 8 (toBE_length 8 n)),
      ofBE_toBE 8 n (by omega)]
    rfl

theorem payloadLength_run (n : Nat) (s : Duplex) (h : n ≤ usizeMax) :
    (payloadLength n).run s = (.ok n, s) := by
  rw [payloadLength, if_pos h, pure_run]

theorem allocate_run (n : Nat) (s : Duplex) (h : n ≤ isizeMax) :
    (allocate n).run s = (.ok (), s) := by
  rw [allocate, if_pos h, pure_run]

/-- The reader takes the key off, and undoes the masking with it. -/
theorem readMask_key (h : FrameHeader) (rest out : Bytes) :
    ∃ key, (readMask h.second).run ⟨h.keyOctets ++ rest, out⟩ = (.ok key, ⟨rest, out⟩) ∧
      ∀ sent, (if h.second &&& 0x80 ≠ 0 then mask (fun idx => key.getD (idx % 4) 0) 0 sent else sent) =
        h.unmask sent := by
  have hmasked := h.second_masked
  unfold readMask FrameHeader.keyOctets FrameHeader.unmask
  cases hkey : h.key with
  | none =>
    have hbit : ¬ (h.second &&& 0x80 ≠ 0) := by simp [hmasked, hkey]
    exact ⟨[0, 0, 0, 0], by rw [if_neg hbit]; rfl, fun sent => by rw [if_neg hbit]⟩
  | some key =>
    have hbit : h.second &&& 0x80 ≠ 0 := by simp [hmasked, hkey]
    refine ⟨key.octets, ?_, fun sent => ?_⟩
    · rw [if_pos hbit]
      exact readExact_append _ key.octets _ out 4 key.size
    · rw [if_pos hbit]
      rfl

theorem readFrame_two (first second : UInt8) (tail out : Bytes) :
    (attempt (readExact IoError.unexpectedEof 2) : Io Stop _).run ⟨first :: second :: tail, out⟩ =
      (.ok (.ok [first, second]), ⟨tail, out⟩) := rfl

/-- Behind a header, the octets that are allocated, and read if there are as many. -/
theorem readFrame_header (h : FrameHeader) (rest out : Bytes) :
    readFrame.run ⟨h.encode ++ rest, out⟩ =
      if isizeMax < h.length then (.error (.panic .capacityOverflow), ⟨rest, out⟩)
      else if rest.length < h.length then (.error (.error (.io .unexpectedEof)), ⟨[], out⟩)
      else (.ok (some (frameOf (h.first &&& 0x0f) (h.unmask (rest.take h.length)))),
        ⟨rest.drop h.length, out⟩) := by
  have husize : h.length ≤ usizeMax := by
    have hlt := h.length_lt
    unfold usizeMax
    omega
  obtain ⟨key, hmask, hplain⟩ := readMask_key h rest out
  have hlength := readLength_extension h.form h.length h.second (h.keyOctets ++ rest) out
    h.fits h.second_low
  rw [FrameHeader.encode, List.cons_append, List.cons_append, List.append_assoc]
  unfold readFrame
  rw [bind_of_ok (readFrame_two h.first h.second _ out)]
  simp only [show [h.first, h.second].getD 0 0 = h.first from rfl,
    show [h.first, h.second].getD 1 0 = h.second from rfl]
  rw [bind_of_ok hlength, bind_of_ok (payloadLength_run _ _ husize),
    bind_of_ok hmask]
  by_cases hlarge : isizeMax < h.length
  · have hpanic : (allocate h.length).run ⟨rest, out⟩ =
        (.error (.panic .capacityOverflow), ⟨rest, out⟩) := by
      rw [allocate, if_neg (by omega), fail_run]
    rw [bind_of_error hpanic, if_pos hlarge]
  · rw [bind_of_ok (allocate_run _ _ (by omega)), if_neg hlarge]
    by_cases hshort : rest.length < h.length
    · rw [readOrFail, bind_of_error (readExact_short _ h.length rest out hshort),
        if_pos hshort]
    · have hsize : (rest.take h.length).length = h.length := by
        rw [List.length_take]
        omega
      have hread := readExact_append (Stop.error (.io .unexpectedEof)) (rest.take h.length)
        (rest.drop h.length) out h.length hsize
      rw [List.take_append_drop] at hread
      rw [readOrFail, bind_of_ok hread, hplain, if_neg hshort]
      rfl

/-- The reader decodes every frame of the layout, and uses up exactly its octets. -/
theorem readFrame_encode (f : WireFrame) (rest out : Bytes) :
    readFrame.run ⟨f.encode ++ rest, out⟩ = (.ok (some f.frame), ⟨rest, out⟩) := by
  have hheld := f.held
  have hsent : (f.header.unmask f.payload).length = f.header.length := f.header.unmask_length f.payload
  have hlength : f.header.length = f.payload.length := rfl
  rw [f.encode_eq, List.append_assoc, readFrame_header, if_neg (by omega), if_neg (by simp [hsent]),
    ← hsent, List.take_left, List.drop_left, FrameHeader.unmask_unmask]
  rfl

theorem readFrame_nil (out : Bytes) : readFrame.run ⟨[], out⟩ = (.ok none, ⟨[], out⟩) := rfl

/-! ## What the reader accepts -/

/-- A fixed number of octets is the encoding of its value. -/
theorem take_eq_toBE (k : Nat) (input : Bytes) (enough : k ≤ input.length) :
    input = toBE k (ofBE (input.take k)) ++ input.drop k ∧ ofBE (input.take k) < 256 ^ k := by
  have hsize : (input.take k).length = k := by
    rw [List.length_take]
    omega
  have hvalue := toBE_ofBE (input.take k)
  have hlt := ofBE_lt (input.take k)
  rw [hsize] at hvalue hlt
  exact ⟨by rw [hvalue, List.take_append_drop], hlt⟩

/-- The reader finds a length in one of the forms, or the stream ends within it. -/
theorem readLength_cases (second : UInt8) (input out : Bytes) :
    (∃ (form : LengthForm) (n : Nat) (rest : Bytes), form.fits n ∧
      second &&& 0x7f = form.lead n ∧ input = form.extension n ++ rest) ∨
    (readLength second).run ⟨input, out⟩ = (.error (.error (.io .unexpectedEof)), ⟨[], out⟩) := by
  have hlow : ∀ k, (second &&& 0x7f).toNat = k → second &&& 0x7f = UInt8.ofNat k := by
    intro k hk
    rw [← hk, UInt8.ofNat_toNat]
  unfold readLength
  dsimp only
  by_cases h126 : (second &&& 0x7f).toNat = 126
  · rcases Nat.lt_or_ge input.length 2 with hshort | henough
    · right
      rw [if_pos h126, readOrFail, bind_of_error (readExact_short _ 2 input out hshort)]
    · left
      obtain ⟨hinput, hfits⟩ := take_eq_toBE 2 input henough
      exact ⟨.medium, _, _, by simpa [LengthForm.fits] using hfits, hlow 126 h126, hinput⟩
  · rw [if_neg h126]
    by_cases h127 : (second &&& 0x7f).toNat = 127
    · rcases Nat.lt_or_ge input.length 8 with hshort | henough
      · right
        rw [if_pos h127, readOrFail, bind_of_error (readExact_short _ 8 input out hshort)]
      · left
        obtain ⟨hinput, hfits⟩ := take_eq_toBE 8 input henough
        exact ⟨.long, _, _, by simpa [LengthForm.fits] using hfits, hlow 127 h127, hinput⟩
    · left
      have hlt : (second &&& 0x7f).toNat < 128 := by
        rw [UInt8.toNat_and]
        exact Nat.lt_of_le_of_lt Nat.and_le_right (by decide)
      exact ⟨.short, _, input, by simp only [LengthForm.fits]; omega, hlow _ rfl, rfl⟩

set_option maxRecDepth 2000 in
/-- An octet is its mask bit and its seven low bits. -/
theorem octet_bits : ∀ n : Fin 256, UInt8.ofNat n =
    (if UInt8.ofNat n &&& 0x80 ≠ 0 then 0x80 else 0) ||| (UInt8.ofNat n &&& 0x7f) := by
  decide

theorem second_of_bits (second : UInt8) (form : LengthForm) (n : Nat) (key : Option MaskKey)
    (low : second &&& 0x7f = form.lead n) (masked : second &&& 0x80 ≠ 0 ↔ key.isSome) :
    second = (if key.isSome then 0x80 else 0) ||| form.lead n := by
  have hbits := octet_bits ⟨second.toNat, second.toNat_lt⟩
  simp only [UInt8.ofNat_toNat, low, masked] at hbits
  exact hbits

/-- Behind two octets there is a header, or the stream ends within it. -/
theorem header_or_cut (first second : UInt8) (tail out : Bytes) :
    (∃ (h : FrameHeader) (rest : Bytes), first :: second :: tail = h.encode ++ rest) ∨
    readFrame.run ⟨first :: second :: tail, out⟩ =
      (.error (.error (.io .unexpectedEof)), ⟨[], out⟩) := by
  rcases readLength_cases second tail out with ⟨form, n, rest, hfits, hlow, rfl⟩ | hcut
  · by_cases hbit : second &&& 0x80 ≠ 0
    · rcases Nat.lt_or_ge rest.length 4 with hshort | henough
      · right
        have hsize : n ≤ usizeMax := by
          have hlt := FrameHeader.length_lt ⟨first, form, n, none, hfits⟩
          unfold usizeMax
          dsimp only at hlt
          omega
        have hkey : (readMask second).run ⟨rest, out⟩ =
            (.error (.error (.io .unexpectedEof)), ⟨[], out⟩) := by
          rw [readMask, if_pos hbit, readOrFail, readExact_short _ 4 rest out hshort]
        unfold readFrame
        rw [bind_of_ok (readFrame_two first second _ out)]
        simp only [show [first, second].getD 1 0 = second from rfl]
        rw [bind_of_ok (readLength_extension form n second rest out hfits hlow),
          bind_of_ok (payloadLength_run _ _ hsize), bind_of_error hkey]
      · left
        have hsize : (rest.take 4).length = 4 := by
          rw [List.length_take]
          omega
        refine ⟨⟨first, form, n, some ⟨rest.take 4, hsize⟩, hfits⟩, rest.drop 4, ?_⟩
        have hsecond := second_of_bits second form n (some ⟨rest.take 4, hsize⟩) hlow (by simp [hbit])
        rw [FrameHeader.encode, FrameHeader.second, ← hsecond]
        simp [FrameHeader.keyOctets]
    · left
      refine ⟨⟨first, form, n, none, hfits⟩, rest, ?_⟩
      have hsecond := second_of_bits second form n none hlow (by simpa using hbit)
      rw [FrameHeader.encode, FrameHeader.second, ← hsecond]
      simp [FrameHeader.keyOctets]
  · right
    unfold readFrame
    rw [bind_of_ok (readFrame_two first second tail out)]
    simp only [show [first, second].getD 1 0 = second from rfl]
    rw [bind_of_error hcut]

theorem readFrame_short (input out : Bytes) (short : input.length < 2) :
    readFrame.run ⟨input, out⟩ = (.ok none, ⟨[], out⟩) := by
  have hhdr : (attempt (readExact IoError.unexpectedEof 2) : Io Stop _).run ⟨input, out⟩ =
      (.ok (.error .unexpectedEof), ⟨[], out⟩) := by
    rw [attempt_run, readExact_short _ 2 input out short]
  unfold readFrame
  rw [bind_of_ok hhdr]
  rfl

/-- What a call of `read_frame` meets: fewer than two octets, a header that the stream cuts off,
or a header and what is behind it. -/
theorem readFrame_cases (s : Duplex) :
    (s.input.length < 2 ∧ readFrame.run s = (.ok none, ⟨[], s.output⟩)) ∨
    (2 ≤ s.input.length ∧
      readFrame.run s = (.error (.error (.io .unexpectedEof)), ⟨[], s.output⟩)) ∨
    ∃ (h : FrameHeader) (rest : Bytes), s.input = h.encode ++ rest := by
  obtain ⟨input, out⟩ := s
  match input with
  | [] => exact .inl ⟨by simp, readFrame_short [] out (by simp)⟩
  | [first] => exact .inl ⟨by simp, readFrame_short [first] out (by simp)⟩
  | first :: second :: tail =>
    rcases header_or_cut first second tail out with hheader | hcut
    · exact .inr (.inr hheader)
    · exact .inr (.inl ⟨by simp, hcut⟩)

/-- The reader returns a frame exactly on the octets of one of the layout. -/
theorem readFrame_some_iff (s t : Duplex) (frame : WsFrame) :
    readFrame.run s = (.ok (some frame), t) ↔
      ∃ f : WireFrame, s.input = f.encode ++ t.input ∧ t.output = s.output ∧ f.frame = frame := by
  constructor
  · intro hread
    rcases readFrame_cases s with ⟨-, hnone⟩ | ⟨-, hcut⟩ | ⟨h, rest, hinput⟩
    · rw [hnone] at hread
      cases (Prod.mk.inj hread).1
    · rw [hcut] at hread
      cases (Prod.mk.inj hread).1
    · obtain ⟨input, out⟩ := s
      dsimp only at hinput
      subst hinput
      rw [readFrame_header] at hread
      split at hread
      · cases (Prod.mk.inj hread).1
      · rename_i hheld
        split at hread
        · cases (Prod.mk.inj hread).1
        · rename_i henough
          obtain ⟨hframe, rfl⟩ := Prod.mk.inj hread
          have hsize : (h.unmask (rest.take h.length)).length = h.length := by
            rw [FrameHeader.unmask_length, List.length_take]
            omega
          refine ⟨⟨h.first, h.form, h.key, h.unmask (rest.take h.length), ?_, by omega⟩, ?_, rfl, ?_⟩
          · rw [hsize]
            exact h.fits
          · rw [WireFrame.encode_eq]
            simp only [WireFrame.header, hsize]
            rw [FrameHeader.unmask_unmask, List.append_assoc, List.take_append_drop]
          · exact Option.some.inj (Except.ok.inj hframe)
  · intro ⟨f, hin, hout, hframe⟩
    obtain ⟨input, output⟩ := s
    obtain ⟨input', output'⟩ := t
    simp only at hin hout
    subst hin hout hframe
    exact readFrame_encode f input' output'

/-! ## Frames with the Pongs skipped -/

/-- What `recv_frame` makes of the frames that come, and the frames it leaves. -/
def nextIncoming : List WireFrame → Option WsIncoming × List WireFrame
  | [] => (none, [])
  | f :: frames =>
    match f.frame with
    | .binary payload => (some (.binary payload), frames)
    | .ping payload => (some (.ping payload), frames)
    | .pong _ => nextIncoming frames
    | .close info => (some (.close info), frames)
    | .other _ => (some (.close ⟨none, some "unexpected_ws_frame"⟩), frames)

theorem recvFrameWithin_frames (frames : List WireFrame) (fuel : Nat) (out : Bytes)
    (enough : frames.length < fuel) :
    (recvFrameWithin fuel).run ⟨frames.flatMap WireFrame.encode, out⟩ =
      (.ok (nextIncoming frames).1, ⟨(nextIncoming frames).2.flatMap WireFrame.encode, out⟩) := by
  induction frames generalizing fuel with
  | nil =>
    obtain ⟨fuel, rfl⟩ : ∃ k, fuel = k + 1 := ⟨fuel - 1, by omega⟩
    rw [recvFrameWithin, List.flatMap_nil, bind_of_ok (readFrame_nil out)]
    rfl
  | cons f frames ih =>
    obtain ⟨fuel, rfl⟩ : ∃ k, fuel = k + 1 := ⟨fuel - 1, by omega⟩
    rw [recvFrameWithin, List.flatMap_cons, bind_of_ok (readFrame_encode f _ out),
      nextIncoming]
    cases f.frame with
    | pong payload => exact ih fuel (by simpa using enough)
    | binary payload | ping payload | close info | other payload => rfl

theorem recvFrame_frames (frames : List WireFrame) (out : Bytes) :
    recvFrame.run ⟨frames.flatMap WireFrame.encode, out⟩ =
      (.ok (nextIncoming frames).1, ⟨(nextIncoming frames).2.flatMap WireFrame.encode, out⟩) := by
  have hlen := length_le_flatMap WireFrame.encode frames WireFrame.encode_pos
  exact recvFrameWithin_frames frames _ out (Nat.lt_succ_of_le hlen)

/-- The frame that is handed on is found in front of any further octets. -/
theorem recvFrameWithin_tail (frames : List WireFrame) (fuel : Nat) (tail out : Bytes)
    (enough : frames.length < fuel) (incoming : WsIncoming)
    (next : (nextIncoming frames).1 = some incoming) :
    (recvFrameWithin fuel).run ⟨frames.flatMap WireFrame.encode ++ tail, out⟩ =
      (.ok (some incoming), ⟨(nextIncoming frames).2.flatMap WireFrame.encode ++ tail, out⟩) := by
  induction frames generalizing fuel with
  | nil => cases next
  | cons f frames ih =>
    obtain ⟨fuel, rfl⟩ : ∃ k, fuel = k + 1 := ⟨fuel - 1, by omega⟩
    rw [nextIncoming] at next ⊢
    rw [recvFrameWithin, List.flatMap_cons, List.append_assoc,
      bind_of_ok (readFrame_encode f _ out)]
    cases hframe : f.frame with
    | pong payload =>
      rw [hframe] at next
      exact ih fuel (by simpa using enough) next
    | binary payload | ping payload | close info | other payload =>
      rw [hframe] at next
      obtain rfl := Option.some.inj next
      rfl

theorem recvFrame_tail (frames : List WireFrame) (tail out : Bytes) (incoming : WsIncoming)
    (next : (nextIncoming frames).1 = some incoming) :
    recvFrame.run ⟨frames.flatMap WireFrame.encode ++ tail, out⟩ =
      (.ok (some incoming), ⟨(nextIncoming frames).2.flatMap WireFrame.encode ++ tail, out⟩) := by
  have hlen := length_le_flatMap WireFrame.encode frames WireFrame.encode_pos
  have henough : frames.length < (frames.flatMap WireFrame.encode ++ tail).length + 1 := by
    rw [List.length_append]
    omega
  exact recvFrameWithin_tail frames _ tail out henough incoming next

theorem frameOf_ping (opcode : UInt8) (payload body : Bytes)
    (h : frameOf opcode payload = .ping body) : payload = body := by
  unfold frameOf at h
  split at h
  · cases h
  · split at h
    · exact WsFrame.ping.inj h
    · split at h
      · cases h
      · split at h <;> cases h

/-- A Ping that is handed on was held in memory. -/
theorem recvFrameWithin_ping (fuel : Nat) (s t : Duplex) (payload : Bytes)
    (h : (recvFrameWithin fuel).run s = (.ok (some (.ping payload)), t)) :
    payload.length ≤ isizeMax := by
  induction fuel generalizing s with
  | zero => cases (pure_ok_iff.mp h).1
  | succ fuel ih =>
    obtain ⟨incoming, r, hread, h⟩ := bind_ok_iff.mp h
    match incoming, hread with
    | some (.ping body), hread =>
      obtain ⟨f, -, -, hframe⟩ := (readFrame_some_iff _ _ _).mp hread
      obtain rfl := WsIncoming.ping.inj (Option.some.inj (pure_ok_iff.mp h).1)
      exact frameOf_ping _ _ _ hframe ▸ f.held
    | some (.pong _), _ => exact ih r h
    | some (.binary _), _ | some (.close _), _ | some (.other _), _ | none, _ =>
      cases (pure_ok_iff.mp h).1

theorem recvFrame_ping (s t : Duplex) (payload : Bytes)
    (h : recvFrame.run s = (.ok (some (.ping payload)), t)) : payload.length ≤ isizeMax :=
  recvFrameWithin_ping (s.input.length + 1) s t payload h

/-! ## Built frames -/

/-- A built frame: final, unreserved, masked, in the shortest length form. -/
def builtFrame (key : MaskKey) (opcode : UInt8) (payload : Bytes)
    (held : payload.length ≤ isizeMax) : WireFrame where
  first := 0x80 ||| (opcode &&& 0x0F)
  form := if payload.length < 126 then .short else if payload.length ≤ 65535 then .medium else .long
  key := some key
  payload := payload
  fits := by
    unfold isizeMax at held
    split
    · assumption
    · split <;> simp only [LengthForm.fits] <;> omega
  held := held

theorem buildFrame_eq_encode (random : Option MaskKey) (opcode : UInt8) (payload : Bytes)
    (held : payload.length ≤ isizeMax) :
    buildFrameWithOpcode random opcode payload =
      (builtFrame (random.getD fallbackKey) opcode payload held).encode := by
  simp only [buildFrameWithOpcode, WireFrame.encode, WireFrame.second, WireFrame.body, builtFrame, Option.isSome_some,
    if_true]
  split
  · simp [LengthForm.extension, LengthForm.lead]
  · split <;> simp [LengthForm.extension, LengthForm.lead]

theorem opcode_of_first : ∀ opcode : Fin 16,
    (0x80 ||| (UInt8.ofNat opcode &&& 0x0F)) &&& 0x0f = UInt8.ofNat opcode := by
  decide

/-- A built frame is read back as its opcode and payload. -/
theorem readFrame_buildFrame (random : Option MaskKey) (opcode : UInt8) (payload rest out : Bytes)
    (nibble : opcode < 16) (held : payload.length ≤ isizeMax) :
    readFrame.run ⟨buildFrameWithOpcode random opcode payload ++ rest, out⟩ =
      (.ok (some (frameOf opcode payload)), ⟨rest, out⟩) := by
  have hopcode : (0x80 ||| (opcode &&& 0x0F)) &&& 0x0f = opcode := by
    have h := opcode_of_first ⟨opcode.toNat, UInt8.lt_iff_toNat_lt.mp nibble⟩
    simpa using h
  rw [buildFrame_eq_encode random opcode payload held, readFrame_encode, WireFrame.frame]
  simp only [builtFrame, hopcode]

end TgWsProxy.Source.Ws
