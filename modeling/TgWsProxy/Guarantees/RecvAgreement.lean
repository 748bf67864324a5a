import TgWsProxy.Source.Ws.Client

/-!
# The two receive loops

A connection that is not split reads with one loop over the frames, a split one with a
loop around `recv_frame`, which skips the Pongs itself. On every stream both pass over the
same Pings and Pongs, return the same message or failure and leave the same octets. The
one difference is what goes out: the first answers each Ping by a Pong with its payload,
the second leaves that to its caller. Writes are taken to succeed; where one fails the
first loop ends with its error.
-/

set_option autoImplicit false

namespace TgWsProxy.Guarantees.RecvAgreement
open Library Library.Io Source.Std Source.Ws

/-- Frames that both loops pass over. -/
def isPing (f : WireFrame) : Prop := ∃ payload, f.frame = .ping payload

def isPong (f : WireFrame) : Prop := ∃ payload, f.frame = .pong payload

/-- No frame at the front is passed over. -/
def Due (tail : Bytes) : Prop :=
  ∀ (f : WireFrame) (rest : Bytes), tail = f.encode ++ rest → ¬ isPing f ∧ ¬ isPong f

/-- What goes out for the frames that were passed over. -/
def pongs : (Nat → Option MaskKey) → List WireFrame → Bytes
  | _, [] => []
  | random, f :: frames =>
    match f.frame with
    | .ping payload =>
      buildFrameWithOpcode (random 0) 0xA payload ++ pongs (fun idx => random (idx + 1)) frames
    | _ => pongs random frames

/-- What both loops make of the frame that ends them. -/
def message (frame : Option WsFrame) : Option Bytes :=
  match frame with
  | some (.binary payload) => some payload
  | _ => none

theorem readFrame_silent : Silent readFrame := by
  unfold readFrame
  apply silent_bind (silent_attempt (silent_readExact _ 2))
  intro hdr
  cases hdr with
  | error err =>
    cases err with
    | unexpectedEof => exact silent_pure none
    | other => exact silent_fail _
  | ok hdr =>
    apply silent_bind
    · unfold readLength readOrFail
      dsimp only
      split
      · exact silent_bind (silent_readExact _ 2) fun ext => silent_pure _
      · split
        · exact silent_bind (silent_readExact _ 8) fun ext => silent_pure _
        · exact silent_pure _
    intro len
    apply silent_bind
    · unfold payloadLength
      split
      · exact silent_pure _
      · exact silent_fail _
    intro size
    apply silent_bind
    · unfold readMask
      split
      · exact silent_readExact _ 4
      · exact silent_pure _
    intro key
    apply silent_bind
    · unfold allocate
      split
      · exact silent_pure _
      · exact silent_fail _
    intro room
    exact silent_bind (silent_readExact _ _) fun payload => silent_pure _

theorem exists_skipped (input : Bytes) :
    ∃ (skipped : List WireFrame) (tail : Bytes),
      input = skipped.flatMap WireFrame.encode ++ tail ∧
      (∀ f ∈ skipped, isPing f ∨ isPong f) ∧ Due tail := by
  induction hsize : input.length using Nat.strongRecOn generalizing input with
  | _ size ih =>
    by_cases hdue : Due input
    · exact ⟨[], input, rfl, by simp, hdue⟩
    · simp only [Due, not_forall] at hdue
      obtain ⟨f, rest, rfl, hskip⟩ := hdue
      have hpos := f.encode_pos
      rw [List.length_append] at hsize
      obtain ⟨skipped, tail, rfl, hall, htail⟩ := ih rest.length (by omega) rest rfl
      refine ⟨f :: skipped, tail, by simp, ?_, htail⟩
      rw [List.forall_mem_cons]
      exact ⟨by tauto, hall⟩

/-- The frame that is read where one is due. -/
theorem readFrame_due (tail out : Bytes) (due : Due tail) (frame : WsFrame) (t : Duplex)
    (h : readFrame.run ⟨tail, out⟩ = (.ok (some frame), t)) :
    (∀ payload, frame ≠ .ping payload) ∧ ∀ payload, frame ≠ .pong payload := by
  obtain ⟨f, hinput, -, rfl⟩ := (readFrame_some_iff _ _ _).mp h
  obtain ⟨hping, hpong⟩ := due f _ hinput
  exact ⟨fun payload hframe => hping ⟨payload, hframe⟩, fun payload hframe => hpong ⟨payload, hframe⟩⟩

/-! ## The loop that answers -/

theorem client_recv_due (fuel : Nat) (random : Nat → Option MaskKey) (tail out : Bytes)
    (due : Due tail) :
    (RawWsClient.recvWithin (fuel + 1) random).run ⟨tail, out⟩ =
      ((readFrame.run ⟨tail, out⟩).1.map message, (readFrame.run ⟨tail, out⟩).2) := by
  rw [RawWsClient.recvWithin]
  cases hread : readFrame.run ⟨tail, out⟩ with
  | mk result t =>
    cases result with
    | error stop => rw [bind_of_error hread]; rfl
    | ok next =>
      rw [bind_of_ok hread]
      cases next with
      | none => rfl
      | some frame =>
        obtain ⟨hping, hpong⟩ := readFrame_due tail out due frame t hread
        cases frame with
        | ping payload => exact absurd rfl (hping payload)
        | pong payload => exact absurd rfl (hpong payload)
        | binary payload | close info | other payload => rfl

theorem client_recv_skipped (skipped : List WireFrame) (fuel : Nat) (random : Nat → Option MaskKey)
    (tail out : Bytes) (skips : ∀ f ∈ skipped, isPing f ∨ isPong f) (due : Due tail)
    (enough : skipped.length < fuel) :
    (RawWsClient.recvWithin fuel random).run ⟨skipped.flatMap WireFrame.encode ++ tail, out⟩ =
      ((readFrame.run ⟨tail, out ++ pongs random skipped⟩).1.map message,
        (readFrame.run ⟨tail, out ++ pongs random skipped⟩).2) := by
  induction skipped generalizing fuel random out with
  | nil =>
    obtain ⟨fuel, rfl⟩ : ∃ k, fuel = k + 1 := ⟨fuel - 1, by omega⟩
    rw [pongs, List.append_nil]
    exact client_recv_due fuel random tail out due
  | cons f skipped ih =>
    obtain ⟨fuel, rfl⟩ : ∃ k, fuel = k + 1 := ⟨fuel - 1, by omega⟩
    obtain ⟨hfirst, hrest⟩ := List.forall_mem_cons.mp skips
    rw [List.length_cons] at enough
    rw [RawWsClient.recvWithin, List.flatMap_cons, List.append_assoc,
      bind_of_ok (readFrame_encode f _ out), pongs]
    rcases hfirst with ⟨payload, hframe⟩ | ⟨payload, hframe⟩
    · rw [hframe]
      dsimp only
      rw [bind_of_ok (writeAll_run _ _), ih fuel _ _ hrest (by omega), List.append_assoc]
    · rw [hframe]
      exact ih fuel random out hrest (by omega)

/-! ## The loop that leaves the answer to its caller -/

/-- What `recv_frame` makes of the frame that ends it. -/
def incoming (frame : Option WsFrame) : Option WsIncoming :=
  match frame with
  | some (.binary payload) => some (.binary payload)
  | some (.ping payload) => some (.ping payload)
  | some (.close info) => some (.close info)
  | some (.other _) => some (.close ⟨none, some "unexpected_ws_frame"⟩)
  | some (.pong _) | none => none

/-- More fuel than there are octets is never used up. -/
theorem recvFrameWithin_fuel (fuel other : Nat) (s : Duplex) (enough : s.input.length < fuel)
    (enough' : s.input.length < other) :
    (recvFrameWithin fuel).run s = (recvFrameWithin other).run s := by
  induction fuel generalizing other s with
  | zero => omega
  | succ fuel ih =>
    obtain ⟨other, rfl⟩ : ∃ k, other = k + 1 := ⟨other - 1, by omega⟩
    rw [recvFrameWithin, recvFrameWithin]
    cases hread : readFrame.run s with
    | mk result t =>
      cases result with
      | error stop => rw [bind_of_error hread, bind_of_error hread]
      | ok next =>
        rw [bind_of_ok hread, bind_of_ok hread]
        cases next with
        | none => rfl
        | some frame =>
          obtain ⟨f, hinput, -, -⟩ := (readFrame_some_iff _ _ _).mp hread
          have hpos := f.encode_pos
          rw [hinput, List.length_append] at enough enough'
          cases frame with
          | pong payload => exact ih other t (by omega) (by omega)
          | binary payload | ping payload | close info | other payload => rfl

theorem recvFrame_of_pong (f : WireFrame) (tail out : Bytes) (pong : isPong f) :
    recvFrame.run ⟨f.encode ++ tail, out⟩ = recvFrame.run ⟨tail, out⟩ := by
  obtain ⟨payload, hframe⟩ := pong
  have hpos := f.encode_pos
  show (recvFrameWithin ((f.encode ++ tail).length + 1)).run _ = (recvFrameWithin (tail.length + 1)).run _
  rw [recvFrameWithin, bind_of_ok (readFrame_encode f tail out), hframe]
  apply recvFrameWithin_fuel
  · rw [List.length_append]
    dsimp only
    omega
  · exact Nat.lt_succ_self _

theorem recvFrame_of_ping (f : WireFrame) (payload tail out : Bytes) (ping : f.frame = .ping payload) :
    recvFrame.run ⟨f.encode ++ tail, out⟩ = (.ok (some (.ping payload)), ⟨tail, out⟩) := by
  show (recvFrameWithin ((f.encode ++ tail).length + 1)).run _ = _
  rw [recvFrameWithin, bind_of_ok (readFrame_encode f tail out), ping]
  rfl

theorem recvFrame_due (tail out : Bytes) (due : Due tail) :
    recvFrame.run ⟨tail, out⟩ =
      ((readFrame.run ⟨tail, out⟩).1.map incoming, (readFrame.run ⟨tail, out⟩).2) := by
  show (recvFrameWithin (tail.length + 1)).run _ = _
  rw [recvFrameWithin]
  cases hread : readFrame.run ⟨tail, out⟩ with
  | mk result t =>
    cases result with
    | error stop => rw [bind_of_error hread]; rfl
    | ok next =>
      rw [bind_of_ok hread]
      cases next with
      | none => rfl
      | some frame =>
        obtain ⟨hping, hpong⟩ := readFrame_due tail out due frame t hread
        cases frame with
        | ping payload => exact absurd rfl (hping payload)
        | pong payload => exact absurd rfl (hpong payload)
        | binary payload | close info | other payload => rfl

theorem reader_recv_due (fuel : Nat) (tail out : Bytes) (due : Due tail) :
    (RawWsReader.recvWithin (fuel + 1)).run ⟨tail, out⟩ =
      ((readFrame.run ⟨tail, out⟩).1.map message, (readFrame.run ⟨tail, out⟩).2) := by
  have hrecv := recvFrame_due tail out due
  rw [RawWsReader.recvWithin]
  cases hread : readFrame.run ⟨tail, out⟩ with
  | mk result t =>
    rw [hread] at hrecv
    cases result with
    | error stop => rw [bind_of_error hrecv]; rfl
    | ok next =>
      rw [bind_of_ok hrecv]
      cases next with
      | none => rfl
      | some frame =>
        obtain ⟨hping, hpong⟩ := readFrame_due tail out due frame t hread
        cases frame with
        | ping payload => exact absurd rfl (hping payload)
        | pong payload => exact absurd rfl (hpong payload)
        | binary payload | close info | other payload => rfl

theorem reader_recv_skipped (skipped : List WireFrame) (fuel : Nat) (tail out : Bytes)
    (skips : ∀ f ∈ skipped, isPing f ∨ isPong f) (due : Due tail)
    (enough : skipped.length < fuel) :
    (RawWsReader.recvWithin fuel).run ⟨skipped.flatMap WireFrame.encode ++ tail, out⟩ =
      ((readFrame.run ⟨tail, out⟩).1.map message, (readFrame.run ⟨tail, out⟩).2) := by
  induction skipped generalizing fuel with
  | nil =>
    obtain ⟨fuel, rfl⟩ : ∃ k, fuel = k + 1 := ⟨fuel - 1, by omega⟩
    exact reader_recv_due fuel tail out due
  | cons f skipped ih =>
    obtain ⟨hfirst, hrest⟩ := List.forall_mem_cons.mp skips
    rw [List.length_cons] at enough
    rw [List.flatMap_cons, List.append_assoc]
    rcases hfirst with ⟨payload, hframe⟩ | hpong
    · obtain ⟨fuel, rfl⟩ : ∃ k, fuel = k + 1 := ⟨fuel - 1, by omega⟩
      rw [RawWsReader.recvWithin, bind_of_ok (recvFrame_of_ping f payload _ out hframe)]
      exact ih fuel hrest (by omega)
    · rw [← ih fuel hrest (by omega)]
      obtain ⟨fuel, rfl⟩ : ∃ k, fuel = k + 1 := ⟨fuel - 1, by omega⟩
      rw [RawWsReader.recvWithin, bind_run, bind_run, recvFrame_of_pong f _ out hpong]

/-- On every stream the two loops pass over the same Pings and Pongs, return what becomes of
the frame behind them and leave the same octets. The first has then sent one Pong for each
of the Pings, in their order, and the second nothing. -/
theorem recv_loops_agree (random : Nat → Option MaskKey) (s : Duplex) :
    ∃ (skipped : List WireFrame) (tail left : Bytes) (result : Except Stop (Option WsFrame)),
      s.input = skipped.flatMap WireFrame.encode ++ tail ∧
      (∀ f ∈ skipped, isPing f ∨ isPong f) ∧ Due tail ∧
      readFrame.run ⟨tail, []⟩ = (result, ⟨left, []⟩) ∧
      (RawWsClient.recv random).run s =
        (result.map message, ⟨left, s.output ++ pongs random skipped⟩) ∧
      RawWsReader.recv.run s = (result.map message, ⟨left, s.output⟩) := by
  obtain ⟨skipped, tail, hinput, hskips, hdue⟩ := exists_skipped s.input
  have hlen := length_le_flatMap WireFrame.encode skipped WireFrame.encode_pos
  have henough : skipped.length < s.input.length + 1 := by
    rw [hinput, List.length_append]
    omega
  refine ⟨skipped, tail, (readFrame.run ⟨tail, []⟩).2.input, (readFrame.run ⟨tail, []⟩).1, hinput,
    hskips, hdue, readFrame_silent tail [] [], ?_, ?_⟩
  · have hrun := client_recv_skipped skipped (s.input.length + 1) random tail s.output hskips hdue henough
    rw [← hinput, readFrame_silent tail [] (s.output ++ pongs random skipped)] at hrun
    exact hrun
  · have hrun := reader_recv_skipped skipped (s.input.length + 1) tail s.output hskips hdue henough
    rw [← hinput, readFrame_silent tail [] s.output] at hrun
    exact hrun

end TgWsProxy.Guarantees.RecvAgreement
