import TgWsProxy.Guarantees.BridgeLock

/-!
# What the bridge delivers to the client

The task from the WebSocket answers each Ping through the writer that the other
task closes at the client's end of stream. As long as no Pong is due after that,
the octets delivered, those in hand and those of the frames still to come are
together what the server sent (`Delivering`). A Pong that is due later fails, the
`?` after it ends the task, and the data behind the Ping is lost.
-/

set_option autoImplicit false

namespace TgWsProxy.Guarantees.BridgeDownstream
open Library Library.Transition Source.Telegram Source.Ws Source.Relay BridgeLock

/-- The payloads of the binary frames before the first one that ends the stream. -/
def expectedData : List WireFrame → Bytes
  | [] => []
  | f :: frames =>
    match f.frame with
    | .binary payload => payload ++ expectedData frames
    | .ping _ | .pong _ => expectedData frames
    | .close _ | .other _ => []

/-- What is to be delivered from a program point on, with these frames to come. -/
def toDeliver (down : Down) (frames : List WireFrame) : Bytes :=
  match down with
  | .delivering data => data ++ expectedData frames
  | .unstarted | .receiving | .locking _ | .answering _ => expectedData frames
  | .shuttingDown | .done | .failed | .panicked => []

def startsPong (label : Label) : Bool :=
  match label with
  | .downLock _ => true
  | _ => false

/-- The task's own operations succeed, and no Pong is due on the closed writer. -/
def PongsInTime (s : Bridge) (label : Label) : Prop :=
  label ≠ .downIoError ∧ (startsPong label = true → s.closed = false)

instance (s : Bridge) (label : Label) : Decidable (PongsInTime s label) :=
  inferInstanceAs (Decidable (_ ∧ _))

structure Delivering (frames : List WireFrame) (s : Bridge) (rest : List WireFrame) : Prop where
  server : s.server = rest.flatMap WireFrame.encode
  data : s.delivered ++ toDeliver s.down rest = expectedData frames
  runs : s.down ≠ .failed ∧ s.down ≠ .panicked

variable (aes : Aes256) (capacity : Nat)

/-- The frames that `recv_frame` skips and the one it returns carry no other data. -/
theorem expectedData_nextIncoming (frames : List WireFrame) :
    expectedData frames =
      match (nextIncoming frames).1 with
      | some incoming => toDeliver (.after incoming) (nextIncoming frames).2
      | none => [] := by
  induction frames with
  | nil => rfl
  | cons f frames ih =>
    rw [expectedData, nextIncoming]
    cases f.frame with
    | pong payload => exact ih
    | binary payload | ping payload | close info | other payload => rfl

theorem downAfter_runs (incoming : WsIncoming) :
    Down.after incoming ≠ .failed ∧ Down.after incoming ≠ .panicked := by
  cases incoming <;> simp [Down.after]

theorem start_delivering (random : Option MaskKey) (init : Bytes)
    (splitter : Option MtProtoMessageSplitter) (client : Bytes) (frames : List WireFrame) :
    Delivering frames (start random init splitter client (frames.flatMap WireFrame.encode)) frames where
  server := rfl
  data := rfl
  runs := ⟨by simp [start], by simp [start]⟩

theorem delivering_step (frames rest : List WireFrame) (s t : Bridge) (label : Label)
    (locked : Locked s) (delivering : Delivering frames s rest) (in_time : PongsInTime s label)
    (h : Move aes capacity s label t) : ∃ rest', Delivering frames t rest' := by
  obtain ⟨hserver, hdata, hruns⟩ := delivering
  have hframe := recvFrame_frames rest []
  rw [← hserver] at hframe
  cases h with
  | upRead | upEof | upLock | upPanic | upLockClose | upSend | upRefused | upWrite | upClose
  | serverTakes =>
    exact ⟨rest, hserver, hdata, hruns⟩
  | upRelease splitter at_point =>
    refine ⟨rest, hserver, ?_, ?_⟩
    · dsimp only
      split
      · rename_i hdown
        rw [hdown] at hdata
        exact hdata
      · exact hdata
    · dsimp only
      split
      · simp
      · exact hruns
  | upIoError t failed =>
    obtain ⟨holder, rfl⟩ := upFailed_frame s t failed
    exact ⟨rest, hserver, hdata, hruns⟩
  | downReceive incoming after at_point frame =>
    rw [frame] at hframe
    obtain ⟨hsome, rfl⟩ := Prod.mk.inj hframe
    rw [at_point, toDeliver, expectedData_nextIncoming, ← Except.ok.inj hsome] at hdata
    exact ⟨(nextIncoming rest).2, rfl, hdata, downAfter_runs incoming⟩
  | downEnd after at_point frame =>
    rw [frame] at hframe
    obtain ⟨hnone, rfl⟩ := Prod.mk.inj hframe
    rw [at_point, toDeliver, expectedData_nextIncoming, ← Except.ok.inj hnone] at hdata
    exact ⟨(nextIncoming rest).2, rfl, hdata, by simp⟩
  | downUnreadable err after at_point frame =>
    rw [frame] at hframe
    cases (Prod.mk.inj hframe).1
  | downPanic why after at_point frame =>
    rw [frame] at hframe
    cases (Prod.mk.inj hframe).1
  | downDeliver data k at_point part =>
    rw [at_point, toDeliver] at hdata
    refine ⟨rest, hserver, ?_, ?_⟩
    · dsimp only
      split
      · rename_i hk
        rw [hk, List.take_length, List.append_assoc]
        exact hdata
      · rw [toDeliver, List.append_assoc, ← List.append_assoc (data.take k), List.take_append_drop]
        exact hdata
    · dsimp only
      split <;> simp
  | downLock payload random at_point =>
    rw [at_point] at hdata
    exact ⟨rest, hserver, hdata, by simp⟩
  | downLockRefused payload random at_point free shut =>
    have hopen := in_time.2 rfl
    rw [shut] at hopen
    cases hopen
  | downRefused frame k at_point shut =>
    have hopen := locked.unclosed (by simp [at_point, downHolds])
    rw [shut] at hopen
    cases hopen
  | downWriteLast frame k at_point | downWrite frame k at_point =>
    rw [at_point] at hdata
    exact ⟨rest, hserver, hdata, by simp⟩
  | downShutdown at_point =>
    rw [at_point] at hdata
    exact ⟨rest, hserver, hdata, by simp⟩
  | downIoError t failed => exact absurd rfl in_time.1

/-- The invariant over a run in which every Pong is due before the writer closes. -/
theorem run_delivering (random : Option MaskKey) (init : Bytes)
    (splitter : Option MtProtoMessageSplitter) (client : Bytes) (frames : List WireFrame)
    (labels : List Label) (s : Bridge)
    (in_time : Along (step aes capacity) PongsInTime
      (start random init splitter client (frames.flatMap WireFrame.encode)) labels)
    (ends : runBridge aes capacity
      (start random init splitter client (frames.flatMap WireFrame.encode)) labels = some s) :
    ∃ rest, Delivering frames s rest := by
  refine (run_invariant (step aes capacity) (fun s => Locked s ∧ ∃ rest, Delivering frames s rest)
    PongsInTime ?_ _ s labels ⟨start_locked random init splitter client _, frames,
      start_delivering random init splitter client frames⟩ in_time ends).2
  intro s label t ⟨locked, rest, delivering⟩ in_time hstep
  have move := move_of_step aes capacity s t label hstep
  exact ⟨locked_step aes capacity s t label locked move,
    delivering_step aes capacity frames rest s t label locked delivering in_time move⟩

/-- A task that has failed delivers nothing more. -/
theorem failed_step (s t : Bridge) (label : Label) (failed : s.down = .failed)
    (h : Move aes capacity s label t) : t.down = .failed ∧ t.delivered = s.delivered := by
  cases h with
  | upRead | upEof | upLock | upPanic | upLockClose | upSend | upRefused | upWrite | upClose
  | serverTakes =>
    exact ⟨failed, rfl⟩
  | upRelease splitter at_point => exact ⟨by simp [failed], rfl⟩
  | upIoError t h =>
    obtain ⟨holder, rfl⟩ := upFailed_frame s t h
    exact ⟨failed, rfl⟩
  | downLockRefused | downRefused => exact ⟨rfl, rfl⟩
  | downReceive incoming after at_point | downEnd after at_point | downUnreadable err after at_point
  | downPanic why after at_point | downDeliver data k at_point | downLock payload random at_point
  | downWriteLast frame k at_point | downWrite frame k at_point | downShutdown at_point =>
    rw [failed] at at_point
    cases at_point
  | downIoError t h =>
    simp only [downFailed, failed] at h
    cases h

/-- A Ping, then one binary frame. -/
def sampleServer : List WireFrame :=
  [⟨0x89, .short, none, [0x61], by decide, by decide⟩, ⟨0x82, .short, none, [0x62], by decide, by decide⟩]

def sampleStart : Bridge := start none [1, 2, 3] none [] (sampleServer.flatMap WireFrame.encode)

/-- The client closes after the Pong has been sent. -/
def pongFirst : List Label :=
  [.upWrite 9, .upRelease, .downReceive, .downLock none, .downWrite 7, .upEof, .upLock, .upClose,
    .downReceive, .downDeliver 1, .downReceive, .downShutdown]

end TgWsProxy.Guarantees.BridgeDownstream
