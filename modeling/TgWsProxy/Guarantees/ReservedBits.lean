import TgWsProxy.Guarantees.WsUpgrade

/-!
# Frames with reserved bits

The request offers `permessage-deflate`, the scan drops the server's answer to it, and
`read_frame` masks the reserved bits off the first octet. So the octets of a compressed
frame are returned as they are. Behind every accepted response that happens exactly if a
complete frame of a data opcode has a reserved bit set (`marked_never_delivered_iff`).
-/

set_option autoImplicit false

namespace TgWsProxy.Guarantees.ReservedBits
open Library Library.Io Source.Std Source.Ws WsUpgrade

/-- One of the three bits behind the final bit is set. -/
def Marked (first : UInt8) : Prop := first &&& 0x70 ≠ 0

/-- The state behind `n` frames, if `read_frame` returns as many. -/
def behindFrames : Nat → Duplex → Option Duplex
  | 0, s => some s
  | n + 1, s =>
    match readFrame.run s with
    | (.ok (some _), t) => behindFrames n t
    | _ => none

/-- No call of `read_frame` that stands at a marked octet returns data. -/
def NeverDelivered (s : Duplex) : Prop :=
  ∀ n t, behindFrames n s = some t → ∀ first rest, t.input = first :: rest → Marked first →
    ∀ payload, (readFrame.run t).1 ≠ .ok (some (.binary payload))

/-- The opcodes that are read as data. -/
def IsData (opcode : UInt8) : Prop := opcode = 0x0 ∨ opcode = 0x1 ∨ opcode = 0x2

/-- No frame of the stream is marked data. -/
def DataUnmarked (stream : Bytes) : Prop :=
  ∀ (frames : List WireFrame) (f : WireFrame) (rest : Bytes),
    stream = frames.flatMap WireFrame.encode ++ (f.encode ++ rest) →
      Marked f.first → ¬ IsData (f.first &&& 0x0f)

theorem frameOf_binary_iff (opcode : UInt8) (payload : Bytes) :
    (∃ body, frameOf opcode payload = .binary body) ↔ IsData opcode := by
  unfold frameOf IsData
  constructor
  · intro ⟨body, h⟩
    split at h
    · cases h
    · split at h
      · cases h
      · split at h
        · cases h
        · split at h
          · assumption
          · cases h
  · intro h
    rcases h with rfl | rfl | rfl <;> exact ⟨payload, rfl⟩

/-- The frames that were read are those in front of what is left. -/
theorem behindFrames_iff (n : Nat) (s t : Duplex) :
    behindFrames n s = some t ↔ ∃ frames : List WireFrame, frames.length = n ∧
      s.input = frames.flatMap WireFrame.encode ++ t.input ∧ t.output = s.output := by
  induction n generalizing s with
  | zero =>
    simp only [behindFrames, Option.some.injEq, List.length_eq_zero_iff]
    constructor
    · rintro rfl
      exact ⟨[], rfl, rfl, rfl⟩
    · rintro ⟨frames, rfl, hin, hout⟩
      obtain ⟨input, output⟩ := t
      obtain ⟨input', output'⟩ := s
      simp only [List.flatMap_nil, List.nil_append] at hin hout
      rw [hin, hout]
  | succ n ih =>
    constructor
    · intro h
      rw [behindFrames] at h
      split at h
      · rename_i frame r hread
        obtain ⟨f, hin, hout, -⟩ := (readFrame_some_iff _ _ _).mp hread
        obtain ⟨frames, rfl, hin', hout'⟩ := (ih r).mp h
        exact ⟨f :: frames, rfl, by simp [hin, hin'], hout'.trans hout⟩
      · cases h
    · intro ⟨frames, hlen, hin, hout⟩
      cases frames with
      | nil => cases hlen
      | cons f frames =>
        obtain ⟨input, output⟩ := s
        dsimp only at hin hout
        rw [List.flatMap_cons, List.append_assoc] at hin
        rw [hin, behindFrames, readFrame_encode]
        apply (ih _).mpr
        exact ⟨frames, by simpa using hlen, rfl, hout⟩

/-- What is read at the first octet of a frame is that frame. -/
theorem readFrame_at (f : WireFrame) (rest : Bytes) (t : Duplex) (h : t.input = f.encode ++ rest) :
    (readFrame.run t).1 = .ok (some f.frame) := by
  obtain ⟨input, output⟩ := t
  dsimp only at h
  rw [h, readFrame_encode]

theorem neverDelivered_iff (s : Duplex) : NeverDelivered s ↔ DataUnmarked s.input := by
  unfold NeverDelivered DataUnmarked
  constructor
  · intro h frames f rest hstream hmarked hdata
    have hbehind : behindFrames frames.length s = some ⟨f.encode ++ rest, s.output⟩ :=
      (behindFrames_iff _ _ _).mpr ⟨frames, rfl, hstream, rfl⟩
    obtain ⟨payload, hframe⟩ := (frameOf_binary_iff _ f.payload).mpr hdata
    apply h _ _ hbehind f.first _ rfl hmarked payload
    rw [readFrame_at f rest _ rfl, WireFrame.frame, hframe]
  · intro h n t hbehind first rest hinput hmarked payload hread
    obtain ⟨frames, -, hstream, -⟩ := (behindFrames_iff n s t).mp hbehind
    obtain ⟨f, hin, -, hframe⟩ := (readFrame_some_iff t (readFrame.run t).2 _).mp (Prod.ext hread rfl)
    have hfirst : f.first = first := by
      rw [hinput] at hin
      exact (List.cons.inj hin).1.symm
    apply h frames f _ (hstream.trans (by rw [hin])) (hfirst ▸ hmarked)
    exact (frameOf_binary_iff _ _).mp ⟨payload, hframe⟩

/-- Reading a head writes nothing. -/
theorem readHeadersWithin_output (room : Nat) (header head : Bytes) (s t : Duplex)
    (h : (readHeadersWithin room header).run s = (.ok head, t)) : t.output = s.output := by
  induction room generalizing header s with
  | zero =>
    rw [readHeadersWithin] at h
    split at h
    · rw [(pure_ok_iff.mp h).2]
    · cases fail_ok_iff.mp h
  | succ room ih =>
    rw [readHeadersWithin] at h
    obtain ⟨octet, r, hread, h⟩ := bind_ok_iff.mp h
    have hout : r.output = s.output := by
      obtain ⟨input, output⟩ := s
      cases input with
      | nil => rw [← (Prod.mk.inj hread).2]
      | cons b rest => rw [← (Prod.mk.inj hread).2]
    cases octet with
    | none => cases fail_ok_iff.mp h
    | some b =>
      dsimp only at h
      split at h
      · rw [← (pure_ok_iff.mp h).2, hout]
      · exact (ih _ _ h).trans hout

section Handshake
variable (sha1 : Bytes → Bytes) (base64 : Bytes → String)

/-- All that a handshake writes is its request. -/
theorem performHandshake_sent (domain : String) (random : Except String Bytes) (s t : Duplex)
    (hs : WsHandshake) (h : (performHandshake sha1 base64 domain random).run s = (.ok hs, t)) :
    ∃ key, t.output = s.output ++ utf8 (handshakePayload domain key) := by
  obtain ⟨request, header, hrequest, hread⟩ := performHandshake_ok sha1 base64 domain random s t hs h
  have hend : t.output = s.output ++ utf8 request.payload := readHeadersWithin_output _ _ _ _ _ hread
  have hpayload : ∃ key, request.payload = handshakePayload domain key := by
    unfold buildHandshakeRequest at hrequest
    cases hkey : websocketKey base64 random with
    | error err =>
      rw [hkey] at hrequest
      cases hrequest
    | ok key =>
      rw [hkey] at hrequest
      exact ⟨key, by rw [← Except.ok.inj hrequest]⟩
  obtain ⟨key, hkey⟩ := hpayload
  exact ⟨key, by rw [hend, hkey]⟩

/-- Behind every accepted response to the request, which offers compression, no marked
frame is returned as data exactly if the stream has no complete marked frame of a data
opcode. The extensions that the response announces play no part. -/
theorem marked_never_delivered_iff (domain : String) (random : Except String Bytes)
    (response stream out sent : Bytes)
    (upgraded : RawWsClient.connect sha1 base64 (.ok ⟨response ++ stream, out⟩) domain random =
      .ok ⟨stream, sent⟩) :
    (∃ key, sent = out ++ utf8 (handshakePayload domain key)) ∧
      (NeverDelivered ⟨stream, sent⟩ ↔ DataUnmarked stream) := by
  obtain ⟨hs, hrun, -⟩ := (connect_ok_iff sha1 base64 _ _ domain random).mp upgraded
  constructor
  · exact performHandshake_sent sha1 base64 domain random _ _ hs hrun
  · exact neverDelivered_iff ⟨stream, sent⟩

end Handshake

/-- An answer that takes up the offered compression. -/
def deflateLine : HeaderLine :=
  ⟨"Sec-WebSocket-Extensions", " permessage-deflate", by decide, by decide, by decide⟩

def deflateResponse : Bytes :=
  responseHead "HTTP/1.1 101 Switching Protocols"
    [upgradeLine, connectionLine, acceptLine, protocolLine, deflateLine]

/-- The state behind that answer, with `stream` to come. -/
def behindDeflateResponse (stream : Bytes) : Duplex :=
  ⟨stream, utf8 (handshakePayload "kws2.web.telegram.org" sampleKey)⟩

theorem connect_deflateResponse (stream : Bytes) :
    RawWsClient.connect sampleSha1 sampleBase64 (.ok ⟨deflateResponse ++ stream, []⟩)
      "kws2.web.telegram.org" (.ok sampleNonce) = .ok (behindDeflateResponse stream) := by
  have hjudged : (parseHandshakeResponse deflateResponse >>=
      judge (websocketAccept sampleSha1 sampleBase64 (sampleBase64 sampleNonce))) =
        .ok ⟨101, false, none⟩ := by
    decide +kernel
  rw [connect_ok_iff]
  refine ⟨⟨101, false, none⟩, ?_, rfl⟩
  rw [deflateResponse] at hjudged ⊢
  rw [performHandshake_head sampleSha1 sampleBase64 _ _ _ sampleNonce stream [] (by decide)
    (by decide +kernel), hjudged]
  rfl

/-- A Ping with a reserved bit is not data, so nothing marked is delivered. -/
theorem marked_never_delivered_iff_ping : NeverDelivered (behindDeflateResponse [0xC9, 0]) := by
  apply (marked_never_delivered_iff sampleSha1 sampleBase64 "kws2.web.telegram.org" (.ok sampleNonce)
    deflateResponse [0xC9, 0] [] _ (connect_deflateResponse [0xC9, 0])).2.mpr
  intro frames f rest hstream _ hdata
  cases frames with
  | nil =>
    rw [List.flatMap_nil, List.nil_append, WireFrame.encode, List.cons_append] at hstream
    rw [← (List.cons.inj hstream).1] at hdata
    revert hdata
    unfold IsData
    decide
  | cons g frames =>
    have hlen := congrArg List.length hstream
    have hg := g.encode_length
    have hf := f.encode_length
    simp only [List.flatMap_cons, List.length_append, List.length_cons, List.length_nil] at hlen
    omega

/-- Three octets of compressed data. -/
def compressedFrame : Bytes := [0xC2, 3, 0xAA, 0x56, 0x4A]

/-- An answer with `permessage-deflate` is accepted, and the compressed octets behind it are
returned as a message. -/
theorem compressed_octets_delivered :
    (readFrame.run (behindDeflateResponse compressedFrame)).1 =
        .ok (some (.binary [0xAA, 0x56, 0x4A])) ∧
      ¬ ∀ (sha1 : Bytes → Bytes) (base64 : Bytes → String) (domain : String)
        (random : Except String Bytes) (response stream out sent : Bytes),
        RawWsClient.connect sha1 base64 (.ok ⟨response ++ stream, out⟩) domain random =
          .ok ⟨stream, sent⟩ → NeverDelivered ⟨stream, sent⟩ := by
  have hread : (readFrame.run (behindDeflateResponse compressedFrame)).1 =
      .ok (some (.binary [0xAA, 0x56, 0x4A])) := by
    rfl
  refine ⟨hread, ?_⟩
  intro h
  have hnever := h sampleSha1 sampleBase64 "kws2.web.telegram.org" (.ok sampleNonce) deflateResponse
    compressedFrame [] _ (connect_deflateResponse compressedFrame)
  have hmarked : Marked 0xC2 := by
    unfold Marked
    decide
  exact hnever 0 _ rfl 0xC2 _ rfl hmarked _ hread

end TgWsProxy.Guarantees.ReservedBits
