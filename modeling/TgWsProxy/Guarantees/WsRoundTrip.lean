import TgWsProxy.Source.Ws.Frame

/-!
# The frame codec over whole streams

Any number of frames written one after another are read back one by one, each
read using up its own frame, and the end of the stream is a clean end. The mask
keys are the random generator's answers, its failures included.
-/

set_option autoImplicit false

namespace TgWsProxy.Guarantees.WsRoundTrip
open Library Library.Io Source.Ws

/-- A frame to be written: the generator's answer, the opcode and the payload. -/
structure Outgoing where
  random : Option MaskKey
  opcode : UInt8
  payload : Bytes
  deriving DecidableEq, Repr

def Outgoing.encode (f : Outgoing) : Bytes := buildFrameWithOpcode f.random f.opcode f.payload

/-- A four-bit opcode and a payload that memory can hold. -/
def Outgoing.Writable (f : Outgoing) : Prop := f.opcode < 16 ∧ f.payload.length ≤ isizeMax

/-- The frame an opcode stands for. -/
def Outgoing.expected (f : Outgoing) : WsFrame :=
  match f.opcode.toNat with
  | 0 | 1 | 2 => .binary f.payload
  | 8 => .close (parseClosePayload f.payload)
  | 9 => .ping f.payload
  | 10 => .pong f.payload
  | _ => .other f.payload

theorem frameOf_eq_expected (f : Outgoing) (nibble : f.opcode < 16) :
    frameOf f.opcode f.payload = f.expected := by
  obtain ⟨random, opcode, payload⟩ := f
  have hlt : opcode.toNat < 16 := UInt8.lt_iff_toNat_lt.mp nibble
  obtain ⟨n, hn⟩ : ∃ n, opcode.toNat = n := ⟨_, rfl⟩
  obtain rfl : opcode = UInt8.ofNat n := by rw [← hn, UInt8.ofNat_toNat]
  rw [hn] at hlt
  simp only [Outgoing.expected, hn]
  interval_cases n <;> rfl

theorem readFrame_outgoing (f : Outgoing) (h : f.Writable) (rest out : Bytes) :
    readFrame.run ⟨f.encode ++ rest, out⟩ = (.ok (some f.expected), ⟨rest, out⟩) := by
  rw [← frameOf_eq_expected f h.1]
  exact readFrame_buildFrame f.random f.opcode f.payload rest out h.1 h.2

/-- Reading a written stream returns the frames in order; before every call the
stream is the frames still to come, and after the last one it ends cleanly. -/
theorem readFrame_stream (frames : List Outgoing) (writable : ∀ f ∈ frames, f.Writable)
    (out : Bytes) :
    (∀ pre f post, frames = pre ++ f :: post →
      readFrame.run ⟨(f :: post).flatMap Outgoing.encode, out⟩ =
        (.ok (some f.expected), ⟨post.flatMap Outgoing.encode, out⟩)) ∧
    readFrame.run ⟨[], out⟩ = (.ok none, ⟨[], out⟩) ∧
    readAll readFrame (frames.length + 1) ⟨frames.flatMap Outgoing.encode, out⟩ =
      .ok (frames.map fun f => (f.expected, f.encode.length)) := by
  refine ⟨?_, readFrame_nil out, ?_⟩
  · rintro pre f post rfl
    rw [List.flatMap_cons]
    exact readFrame_outgoing f (writable f (by simp)) _ out
  · exact readAll_flatMap readFrame Outgoing.encode Outgoing.expected out frames
      (fun f hf rest => readFrame_outgoing f (writable f hf) rest out) (readFrame_nil out) _
      (Nat.lt_succ_self _)

def sampleFrames : List Outgoing :=
  [⟨none, 0x9, [0x61]⟩, ⟨some ⟨[1, 2, 3, 4], rfl⟩, 0x8, [0x03, 0xE8]⟩,
    ⟨none, 0x2, List.replicate 130 7⟩]

theorem sampleFrames_writable : ∀ f ∈ sampleFrames, f.Writable := by
  intro f hf
  simp only [sampleFrames, List.mem_cons, List.not_mem_nil, or_false] at hf
  rcases hf with rfl | rfl | rfl <;> exact ⟨by decide, by simp [isizeMax]⟩

theorem readFrame_stream_sample :
    (∀ pre f post, sampleFrames = pre ++ f :: post →
      readFrame.run ⟨(f :: post).flatMap Outgoing.encode, []⟩ =
        (.ok (some f.expected), ⟨post.flatMap Outgoing.encode, []⟩)) ∧
    readFrame.run ⟨[], []⟩ = (.ok none, ⟨[], []⟩) ∧
    readAll readFrame (sampleFrames.length + 1) ⟨sampleFrames.flatMap Outgoing.encode, []⟩ =
      .ok (sampleFrames.map fun f => (f.expected, f.encode.length)) :=
  readFrame_stream sampleFrames sampleFrames_writable []

end TgWsProxy.Guarantees.WsRoundTrip
