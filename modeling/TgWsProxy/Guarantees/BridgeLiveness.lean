import TgWsProxy.Guarantees.BridgeBackpressure
import TgWsProxy.Guarantees.BridgeUpstream

/-!
# The bridge comes to an end

Each step of the bridge uses up work (`work_step`): an octet of the client is read, put
into a frame, written and taken by the server, and an octet of the server is received and
delivered, or answered. So no run is longer than a multiple of what the two sides send
(`bridge_run_bounded`), whatever fails in it.

No interleaving locks the tasks up. As long as one of them has not ended, one of them or
the server can go on (`bridge_stuck_iff`), so a run without a failure can be continued
until both have ended, with the client's stream relayed to the end (`bridge_completes`).
-/

set_option autoImplicit false

namespace TgWsProxy.Guarantees.BridgeLiveness
open Library Library.Io Library.Transition Source.Telegram Source.Ws Source.Relay BridgeLock
open BridgeUpstream BridgeDownstream

/-! ## Octets that a read uses up -/

def frameSize (frame : WsFrame) : Nat :=
  match frame with
  | .binary payload | .ping payload => payload.length
  | .pong _ | .close _ | .other _ => 0

def incomingSize (incoming : WsIncoming) : Nat :=
  match incoming with
  | .binary payload | .ping payload => payload.length
  | .close _ => 0

theorem frameSize_frameOf (opcode : UInt8) (payload : Bytes) :
    frameSize (frameOf opcode payload) ≤ payload.length := by
  unfold frameOf
  split_ifs <;> simp [frameSize]

theorem encode_size (f : WireFrame) : frameSize f.frame + 2 ≤ f.encode.length := by
  have hframe := frameSize_frameOf (f.first &&& 0x0f) f.payload
  have hsent := f.header.unmask_length f.payload
  have hheader := f.header.encode_length
  rw [f.encode_eq, List.length_append, hsent, WireFrame.frame]
  omega

theorem readFrame_shrinks (s t : Duplex) (result : Except Stop (Option WsFrame))
    (h : readFrame.run s = (result, t)) : t.input.length ≤ s.input.length := by
  rcases readFrame_cases s with ⟨-, hnone⟩ | ⟨-, hcut⟩ | ⟨header, rest, hinput⟩
  · rw [hnone] at h
    obtain ⟨-, rfl⟩ := Prod.mk.inj h
    exact Nat.zero_le _
  · rw [hcut] at h
    obtain ⟨-, rfl⟩ := Prod.mk.inj h
    exact Nat.zero_le _
  · obtain ⟨input, out⟩ := s
    dsimp only at hinput
    subst hinput
    rw [readFrame_header] at h
    have hrest : rest.length ≤ (header.encode ++ rest).length := by simp
    split at h
    · obtain ⟨-, rfl⟩ := Prod.mk.inj h
      exact hrest
    · split at h
      · obtain ⟨-, rfl⟩ := Prod.mk.inj h
        exact Nat.zero_le _
      · obtain ⟨-, rfl⟩ := Prod.mk.inj h
        exact Nat.le_trans (by simp) hrest

theorem readFrame_uses (s t : Duplex) (frame : WsFrame)
    (h : readFrame.run s = (.ok (some frame), t)) :
    frameSize frame + 2 + t.input.length ≤ s.input.length := by
  obtain ⟨f, hinput, -, rfl⟩ := (readFrame_some_iff s t frame).mp h
  have hsize := encode_size f
  rw [hinput, List.length_append]
  omega

theorem recvFrameWithin_uses (fuel : Nat) (s t : Duplex) (result : Except Stop (Option WsIncoming))
    (h : (recvFrameWithin fuel).run s = (result, t)) :
    t.input.length ≤ s.input.length ∧
      ∀ incoming, result = .ok (some incoming) →
        incomingSize incoming + 2 + t.input.length ≤ s.input.length := by
  induction fuel generalizing s with
  | zero =>
    obtain ⟨rfl, rfl⟩ := Prod.mk.inj h
    exact ⟨Nat.le_refl _, fun incoming heq => by cases heq⟩
  | succ fuel ih =>
    rw [recvFrameWithin] at h
    cases hread : readFrame.run s with
    | mk found r =>
      have hshrinks := readFrame_shrinks s r found hread
      cases found with
      | error stop =>
        rw [bind_of_error hread] at h
        obtain ⟨rfl, rfl⟩ := Prod.mk.inj h
        exact ⟨hshrinks, fun incoming heq => by cases heq⟩
      | ok frame =>
        rw [bind_of_ok hread] at h
        cases frame with
        | none =>
          obtain ⟨rfl, rfl⟩ := Prod.mk.inj h
          exact ⟨hshrinks, fun incoming heq => by cases heq⟩
        | some frame =>
          have huses := readFrame_uses s r frame hread
          cases frame with
          | pong payload =>
            obtain ⟨hle, hincoming⟩ := ih r h
            refine ⟨Nat.le_trans hle hshrinks, fun incoming heq => ?_⟩
            exact Nat.le_trans (hincoming incoming heq) hshrinks
          | binary payload | ping payload | close info | other payload =>
            obtain ⟨rfl, rfl⟩ := Prod.mk.inj h
            refine ⟨hshrinks, fun incoming heq => ?_⟩
            obtain rfl := Option.some.inj (Except.ok.inj heq)
            exact huses

theorem recvFrame_uses (s t : Duplex) (result : Except Stop (Option WsIncoming))
    (h : recvFrame.run s = (result, t)) :
    t.input.length ≤ s.input.length ∧
      ∀ incoming, result = .ok (some incoming) →
        incomingSize incoming + 2 + t.input.length ≤ s.input.length :=
  recvFrameWithin_uses (s.input.length + 1) s t result h

theorem buildFrame_length (random : Option MaskKey) (opcode : UInt8) (payload : Bytes) :
    0 < (buildFrameWithOpcode random opcode payload).length ∧
      (buildFrameWithOpcode random opcode payload).length ≤ payload.length + 14 := by
  have hkey := (random.getD fallbackKey).size
  unfold buildFrameWithOpcode
  dsimp only
  split_ifs <;> simp [hkey, toBE_length] <;> omega

/-! ## Work that is left -/

/-- For each part two units an octet of its frame, which has at most 14 octets more. -/
def partsWork : List Bytes → Nat
  | [] => 0
  | part :: parts => 2 * part.length + 30 + partsWork parts

def upWork (up : Up) : Nat :=
  match up with
  | .reading _ => 4
  | .locking _ chunk => 6 + 32 * chunk.length
  | .holding _ parts => 5 + partsWork parts
  | .writing _ frame parts => 2 * frame.length + 5 + partsWork parts
  | .lockingClose => 3
  | .closing => 2
  | .done | .failed | .panicked => 0

def downWork (down : Down) : Nat :=
  match down with
  | .unstarted | .receiving => 2
  | .delivering data => 3 + data.length
  | .locking payload => 2 * payload.length + 33
  | .answering frame => 3 + 2 * frame.length
  | .shuttingDown => 1
  | .done | .failed | .panicked => 0

/-- What a run can still do: an octet that is written waits for the server to take it. -/
def work (s : Bridge) : Nat :=
  upWork s.up + 35 * s.client.length + downWork s.down + 18 * s.server.length +
    (s.wire.length - s.taken)

theorem partsWork_flatten (parts : List Bytes) (nonempty : ∀ part ∈ parts, part ≠ []) :
    partsWork parts ≤ 32 * parts.flatten.length := by
  induction parts with
  | nil => exact Nat.zero_le _
  | cons part parts ih =>
    have hrest := ih fun other mem => nonempty other (List.mem_cons_of_mem part mem)
    have hpart := List.length_pos_iff.mpr (nonempty part List.mem_cons_self)
    rw [partsWork, List.flatten_cons, List.length_append]
    omega

theorem downAfter_work (incoming : WsIncoming) :
    downWork (.after incoming) ≤ 2 * incomingSize incoming + 33 := by
  cases incoming with
  | binary data =>
    simp only [Down.after, downWork, incomingSize]
    omega
  | ping payload => exact Nat.le_refl _
  | close info => exact Nat.le_trans (by decide : 1 ≤ 33) (Nat.le_add_left 33 _)

variable (aes : Aes256) (capacity : Nat)

theorem work_step (s t : Bridge) (label : Label) (parted : Parted s) (h : Move aes capacity s label t) :
    work t < work s := by
  cases h with
  | upRead splitter n at_point some_read in_buffer sent =>
    simp only [work, at_point, upWork, List.length_take, List.length_drop]
    omega
  | upEof splitter at_point | upLockClose at_point | upClose at_point =>
    simp only [work, at_point, upWork]
    omega
  | upLock splitter next chunk parts at_point free cut =>
    obtain ⟨parts', next', hcut, hflat, hparts⟩ :=
      partsToSend_ok aes splitter chunk (parted.chunk chunk (by simp [at_point, upChunk])).1
    rw [cut] at hcut
    obtain ⟨rfl, rfl⟩ := Prod.mk.inj (Except.ok.inj hcut)
    have hwork := partsWork_flatten parts hparts
    rw [hflat] at hwork
    simp only [work, at_point, upWork]
    omega
  | upPanic splitter chunk why at_point =>
    simp only [work, at_point, upWork]
    omega
  | upSend splitter part parts random at_point =>
    have hlen := (buildFrame_length random 0x2 part).2
    simp only [work, at_point, upWork, partsWork, buildFrame]
    omega
  | upRefused splitter frame parts k at_point =>
    simp only [work, at_point, upWork]
    omega
  | upWrite splitter frame parts k at_point room =>
    obtain ⟨hpos, hle, -⟩ := room
    simp only [work, at_point, List.length_append, List.length_take]
    split
    · simp only [upWork]
      omega
    · simp only [upWork, List.length_drop]
      omega
  | upRelease splitter at_point =>
    have hdown : downWork (if s.down = .unstarted then .receiving else s.down) = downWork s.down := by
      split
      · rename_i hdown
        rw [hdown]
        rfl
      · rfl
    simp only [work, at_point, upWork, partsWork, hdown]
    omega
  | upIoError t failed =>
    have hrunning : 0 < upWork s.up := by
      cases hup : s.up <;> simp [upFailed, hup] at failed <;> simp [upWork]
    obtain ⟨holder, rfl⟩ := upFailed_frame s t failed
    have hended : upWork .failed = 0 := rfl
    simp only [work]
    omega
  | downReceive incoming rest at_point frame =>
    have huses := (recvFrame_uses _ _ _ frame).2 incoming rfl
    have hafter := downAfter_work incoming
    have hreceiving : downWork .receiving = 2 := rfl
    simp only [work, at_point] at huses ⊢
    omega
  | downEnd rest at_point frame =>
    have hshrinks := (recvFrame_uses _ _ _ frame).1
    simp only [work, at_point, downWork] at hshrinks ⊢
    omega
  | downUnreadable err rest at_point frame =>
    have hshrinks := (recvFrame_uses _ _ _ frame).1
    simp only [work, at_point, downWork] at hshrinks ⊢
    omega
  | downPanic why rest at_point =>
    simp only [work, at_point, downWork]
    omega
  | downDeliver data k at_point part =>
    simp only [work, at_point]
    split
    · simp only [downWork]
      omega
    · rename_i hmore
      have hpos : 0 < k := by
        rcases part.2 with hpos | rfl
        · exact hpos
        · exact absurd (Nat.le_zero.mp part.1) hmore
      simp only [downWork, List.length_drop]
      omega
  | downLock payload random at_point =>
    have hlen := (buildFrame_length random 0xA payload).2
    simp only [work, at_point, downWork]
    omega
  | downLockRefused payload random at_point | downShutdown at_point =>
    simp only [work, at_point, downWork]
    omega
  | downRefused frame k at_point =>
    simp only [work, at_point, downWork]
    omega
  | downWriteLast frame k at_point room =>
    obtain ⟨hpos, hle, -⟩ := room
    simp only [work, at_point, downWork, List.length_append, List.length_take]
    omega
  | downWrite frame k at_point room =>
    obtain ⟨hpos, hle, -⟩ := room
    simp only [work, at_point, downWork, List.length_append, List.length_take, List.length_drop]
    omega
  | downIoError t failed =>
    have hrunning : 0 < downWork s.down := by
      cases hdown : s.down <;> simp [downFailed, hdown] at failed <;> simp [downWork]
    obtain ⟨holder, rfl⟩ := downFailed_frame s t failed
    have hended : downWork .failed = 0 := rfl
    simp only [work]
    omega
  | serverTakes k some_taken written =>
    simp only [work]
    omega

theorem reachable_parted (random : Option MaskKey) (init : Bytes)
    (splitter : Option MtProtoMessageSplitter) (client server : Bytes) (labels : List Label)
    (s : Bridge)
    (ends : runBridge aes capacity (start random init splitter client server) labels = some s) :
    Parted s :=
  run_invariant_of_step (step aes capacity) Parted
    (fun s label t parted hstep =>
      parted_step aes capacity s t label parted (move_of_step aes capacity s t label hstep))
    _ s labels (start_parted random init splitter client server) ends

theorem work_lowers (s : Bridge) (label : Label) (t : Bridge) (parted : Parted s)
    (h : step aes capacity s label = some t) : Parted t ∧ work t < work s := by
  have move := move_of_step aes capacity s t label h
  exact ⟨parted_step aes capacity s t label parted move, work_step aes capacity s t label parted move⟩

/-- Every run is at most this long, whatever the interleaving and whatever fails in it. -/
theorem bridge_run_bounded (random : Option MaskKey) (init : Bytes)
    (splitter : Option MtProtoMessageSplitter) (client server : Bytes) (labels : List Label)
    (s : Bridge)
    (ends : runBridge aes capacity (start random init splitter client server) labels = some s) :
    labels.length ≤ 2 * init.length + 35 * client.length + 18 * server.length + 35 := by
  have hrun := run_length (step aes capacity) work Parted (work_lowers aes capacity) _ s labels
    (start_parted random init splitter client server) ends
  have hframe := (buildFrame_length random 0x2 init).2
  simp only [work, start, upWork, downWork, partsWork, buildFrame, List.length_nil] at hrun
  omega

theorem bridge_run_bounded_sample :
    sampleLabels.length ≤ 2 * 3 + 35 * 2 + 18 * 3 + 35 :=
  bridge_run_bounded (fun _ _ _ => 0) 64 none [1, 2, 3] none [7, 8] samplePing sampleLabels _ rfl

/-! ## Why the tasks do not lock up -/

/-- The bridge is still sending the init packet, or has failed to. -/
def greeting (up : Up) : Bool :=
  match up with
  | .writing _ _ [] | .holding _ [] | .failed => true
  | _ => false

/-- A recorded holder does hold the lock, and a frame in flight has octets left. -/
structure Live (s : Bridge) : Prop where
  up : s.holder = some .up → upHolds s.up = true
  down : s.holder = some .down → downHolds s.down = true
  upFrame : ∀ splitter frame parts, s.up = .writing splitter frame parts → frame ≠ []
  downFrame : ∀ frame, s.down = .answering frame → frame ≠ []
  greeting : s.down = .unstarted → greeting s.up = true

theorem start_live (random : Option MaskKey) (init : Bytes)
    (splitter : Option MtProtoMessageSplitter) (client server : Bytes) :
    Live (start random init splitter client server) where
  up _ := rfl
  down h := by cases h
  upFrame splitter' frame parts h := by
    obtain ⟨-, rfl, -⟩ := Up.writing.inj h
    exact List.length_pos_iff.mp (buildFrame_length random 0x2 init).1
  downFrame frame h := by cases h
  greeting _ := rfl

theorem not_holder (s : Bridge) (live : Live s) (free : upHolds s.up = false) :
    s.holder ≠ some .up := by
  intro h
  rw [live.up h] at free
  cases free

theorem not_down_holder (s : Bridge) (live : Live s) (free : downHolds s.down = false) :
    s.holder ≠ some .down := by
  intro h
  rw [live.down h] at free
  cases free

/-- Where the task from the client goes to a point without a frame, that is neither the greeting
nor holds the lock. -/
theorem live_up (s : Bridge) (live : Live s) (client : Bytes) (up : Up)
    (free : upHolds s.up = false) (started : s.down = .unstarted → greeting up = true)
    (idle : ∀ splitter frame parts, up ≠ .writing splitter frame parts) :
    Live { s with client := client, up := up } :=
  { live with
    up := fun h => absurd h (not_holder s live free)
    upFrame := fun splitter frame parts h => absurd h (idle splitter frame parts)
    greeting := started }

theorem live_up_failed (s : Bridge) (live : Live s) (holder : Option Side)
    (freed : holder = none ∨ holder = s.holder ∧ upHolds s.up = false) :
    Live { s with holder := holder, up := .failed } := by
  refine ⟨?_, ?_, by simp, live.downFrame, fun _ => rfl⟩
  · intro h
    rcases freed with rfl | ⟨rfl, hfree⟩
    · cases h
    · exact absurd h (not_holder s live hfree)
  · intro h
    rcases freed with rfl | ⟨rfl, -⟩
    · cases h
    · exact live.down h

theorem live_down (s : Bridge) (live : Live s) (down : Down) (server : Bytes)
    (received : List WsIncoming) (delivered : Bytes) (free : downHolds s.down = false)
    (idle : downHolds down = false) (running : down ≠ .unstarted) :
    Live { s with server := server, received := received, delivered := delivered, down := down } :=
  { live with
    down := fun h => absurd h (not_down_holder s live free)
    downFrame := fun frame h => by
      obtain rfl : down = .answering frame := h
      cases idle
    greeting := fun h => absurd h running }

theorem live_down_failed (s : Bridge) (live : Live s) (holder : Option Side)
    (freed : holder = none ∨ holder = s.holder ∧ downHolds s.down = false) :
    Live { s with holder := holder, down := .failed } := by
  refine ⟨?_, ?_, live.upFrame, by simp, by simp⟩
  · intro h
    rcases freed with rfl | ⟨rfl, -⟩
    · cases h
    · exact live.up h
  · intro h
    rcases freed with rfl | ⟨rfl, hfree⟩
    · cases h
    · exact absurd h (not_down_holder s live hfree)

theorem upFailed_live (s t : Bridge) (live : Live s) (h : upFailed s = some t) : Live t := by
  unfold upFailed at h
  split at h
  · rename_i splitter at_point
    obtain rfl := Option.some.inj h
    exact live_up_failed s live s.holder (.inr ⟨rfl, by simp [at_point, upHolds]⟩)
  · obtain rfl := Option.some.inj h
    exact live_up_failed s live none (.inl rfl)
  · obtain rfl := Option.some.inj h
    exact live_up_failed s live none (.inl rfl)
  · cases h

theorem downFailed_live (s t : Bridge) (live : Live s) (h : downFailed s = some t) : Live t := by
  unfold downFailed at h
  split at h
  · rename_i at_point
    obtain rfl := Option.some.inj h
    exact live_down_failed s live s.holder (.inr ⟨rfl, by simp [at_point, downHolds]⟩)
  · rename_i data at_point
    obtain rfl := Option.some.inj h
    exact live_down_failed s live s.holder (.inr ⟨rfl, by simp [at_point, downHolds]⟩)
  · rename_i at_point
    obtain rfl := Option.some.inj h
    exact live_down_failed s live s.holder (.inr ⟨rfl, by simp [at_point, downHolds]⟩)
  · obtain rfl := Option.some.inj h
    exact live_down_failed s live none (.inl rfl)
  · cases h

/-- A point of the task from the client past the greeting means that the other task runs. -/
theorem started_of_up (s : Bridge) (live : Live s) (h : greeting s.up = false) :
    s.down ≠ .unstarted := by
  intro hdown
  rw [live.greeting hdown] at h
  cases h

theorem live_step (s t : Bridge) (label : Label) (locked : Locked s) (live : Live s)
    (h : Move aes capacity s label t) : Live t := by
  cases h with
  | upRead splitter n at_point | upEof splitter at_point | upPanic splitter chunk why at_point =>
    have hstarted := started_of_up s live (by simp [at_point, greeting])
    exact live_up s live _ _ (by simp [at_point, upHolds]) (fun h => absurd h hstarted) (by simp)
  | upLock splitter next chunk parts at_point free | upLockClose at_point free =>
    have hstarted := started_of_up s live (by simp [at_point, greeting])
    exact { live with
      up := fun _ => rfl
      down := by simp
      upFrame := by simp
      greeting := fun h => absurd h hstarted }
  | upSend splitter part parts random at_point =>
    have hstarted := started_of_up s live (by simp [at_point, greeting])
    refine { live with up := fun _ => rfl, upFrame := ?_, greeting := fun h => absurd h hstarted }
    intro splitter' frame parts' h
    obtain ⟨-, rfl, -⟩ := Up.writing.inj h
    exact List.length_pos_iff.mp (buildFrame_length random 0x2 part).1
  | upRefused splitter frame parts k at_point shut => exact live_up_failed s live none (.inl rfl)
  | upWrite splitter frame parts k at_point room =>
    have hgreeting := live.greeting
    rw [at_point] at hgreeting
    split
    · refine { live with up := fun _ => rfl, upFrame := by simp, greeting := fun h => ?_ }
      have hparts := hgreeting h
      cases parts with
      | nil => rfl
      | cons part parts => cases hparts
    · rename_i hmore
      refine { live with up := fun _ => rfl, upFrame := ?_, greeting := fun h => ?_ }
      · intro splitter' frame' parts' h
        obtain ⟨-, rfl, -⟩ := Up.writing.inj h
        have hle := room.2.1
        exact List.length_pos_iff.mp (by rw [List.length_drop]; omega)
      · have hparts := hgreeting h
        cases parts with
        | nil => rfl
        | cons part parts => cases hparts
  | upRelease splitter at_point =>
    have hfree := down_free_of_up_holds s locked (by simp [at_point, upHolds])
    refine ⟨by simp, by simp, by simp, ?_, ?_⟩
    · intro frame h
      dsimp only at h
      split at h
      · cases h
      · exact live.downFrame frame h
    · intro h
      dsimp only at h
      split at h
      · cases h
      · contradiction
  | upClose at_point =>
    have hstarted := started_of_up s live (by simp [at_point, greeting])
    exact ⟨by simp, by simp, by simp, live.downFrame, fun h => absurd h hstarted⟩
  | upIoError t failed => exact upFailed_live s t live failed
  | downReceive incoming rest at_point =>
    exact live_down s live _ _ _ _ (by simp [at_point, downHolds]) (downAfter_free incoming)
      (by cases incoming <;> simp [Down.after])
  | downEnd rest at_point | downUnreadable err rest at_point | downPanic why rest at_point
  | downShutdown at_point | downLockRefused payload random at_point =>
    exact live_down s live _ _ _ _ (by simp [at_point, downHolds]) rfl (by simp)
  | downDeliver data k at_point =>
    refine live_down s live _ _ _ _ (by simp [at_point, downHolds]) ?_ ?_
    · split <;> rfl
    · split <;> simp
  | downLock payload random at_point =>
    refine { live with up := by simp, down := fun _ => rfl, downFrame := ?_, greeting := by simp }
    intro frame h
    obtain rfl := Down.answering.inj h
    exact List.length_pos_iff.mp (buildFrame_length random 0xA payload).1
  | downRefused frame k at_point => exact live_down_failed s live none (.inl rfl)
  | downWriteLast frame k at_point =>
    exact ⟨by simp, by simp, live.upFrame, by simp, by simp⟩
  | downWrite frame k at_point room more =>
    refine { live with down := fun _ => rfl, downFrame := ?_, greeting := by simp }
    intro frame' h
    obtain rfl := Down.answering.inj h
    have hle := room.2.1
    exact List.length_pos_iff.mp (by rw [List.length_drop]; omega)
  | downIoError t failed => exact downFailed_live s t live failed
  | serverTakes k => exact { live with }

theorem run_live (random : Option MaskKey) (init : Bytes)
    (splitter : Option MtProtoMessageSplitter) (client server : Bytes) (labels : List Label)
    (s : Bridge)
    (ends : runBridge aes capacity (start random init splitter client server) labels = some s) :
    Locked s ∧ Parted s ∧ Live s := by
  refine run_invariant_of_step (step aes capacity) (fun s => Locked s ∧ Parted s ∧ Live s) ?_ _ s labels
    ⟨start_locked random init splitter client server, start_parted random init splitter client server,
      start_live random init splitter client server⟩ ends
  rintro s label t ⟨locked, parted, live⟩ hstep
  have move := move_of_step aes capacity s t label hstep
  exact ⟨locked_step aes capacity s t label locked move, parted_step aes capacity s t label parted move,
    live_step aes capacity s t label locked live move⟩

/-! ## What can go on -/

/-- A step can be taken in which no operation of the system fails. -/
def GoesOn (s : Bridge) : Prop :=
  ∃ label t, label.isIoError = false ∧ step aes capacity s label = some t

theorem goesOn_of_resume (s : Bridge) (label : Label) (healthy : label.isIoError = false)
    (up : s.up ≠ .panicked) (down : s.down ≠ .panicked)
    (h : (resume aes capacity s label).isSome = true) : GoesOn aes capacity s := by
  obtain ⟨t, ht⟩ := Option.isSome_iff_exists.mp h
  refine ⟨label, t, healthy, ?_⟩
  rw [step, if_neg (not_or.mpr ⟨up, down⟩)]
  exact ht

theorem goesOn_server (s : Bridge) (up : s.up ≠ .panicked) (down : s.down ≠ .panicked)
    (unread : s.taken < s.wire.length) : GoesOn aes capacity s := by
  have htakes : 0 < 1 ∧ s.taken + 1 ≤ s.wire.length := ⟨Nat.one_pos, unread⟩
  exact goesOn_of_resume aes capacity s (.serverTakes 1) rfl up down (by simp [resume, htakes])

/-- Either the transport has room for an octet of a frame or the server has one to take. -/
theorem goesOn_of_frame (s : Bridge) (frame : Bytes) (room : 0 < capacity) (nonempty : frame ≠ [])
    (up : s.up ≠ .panicked) (down : s.down ≠ .panicked)
    (writes : s.accepts capacity frame 1 → GoesOn aes capacity s) : GoesOn aes capacity s := by
  by_cases hroom : s.wire.length < s.taken + capacity
  · exact writes ⟨Nat.one_pos, List.length_pos_iff.mpr nonempty, hroom⟩
  · exact goesOn_server aes capacity s up down (by omega)

/-- The task from the client goes on while it holds the lock. -/
theorem goesOn_up_holds (s : Bridge) (room : 0 < capacity) (locked : Locked s) (live : Live s)
    (holds : upHolds s.up = true) (down : s.down ≠ .panicked) : GoesOn aes capacity s := by
  have hrunning : s.up ≠ .panicked := by
    intro hup
    rw [hup] at holds
    cases holds
  cases hup : s.up with
  | holding splitter parts =>
    cases parts with
    | nil =>
      refine goesOn_of_resume aes capacity s .upRelease rfl hrunning down ?_
      simp only [resume, upReleased, hup]
      rfl
    | cons part parts =>
      refine goesOn_of_resume aes capacity s (.upSend none) rfl hrunning down ?_
      simp only [resume, hup]
      rfl
  | writing splitter frame parts =>
    have hopen := unclosed_of_up s locked (by simp [hup])
    refine goesOn_of_frame aes capacity s frame room (live.upFrame _ _ _ hup) hrunning down ?_
    intro haccepts
    refine goesOn_of_resume aes capacity s (.upWrite 1) rfl hrunning down ?_
    simp only [resume, upWritten, hup, hopen, if_pos haccepts]
    rfl
  | closing =>
    refine goesOn_of_resume aes capacity s .upClose rfl hrunning down ?_
    simp only [resume, hup]
    rfl
  | reading | locking | lockingClose | done | failed | panicked =>
    rw [hup] at holds
    cases holds

theorem goesOn_down_holds (s : Bridge) (room : 0 < capacity) (locked : Locked s) (live : Live s)
    (holds : downHolds s.down = true) (up : s.up ≠ .panicked) : GoesOn aes capacity s := by
  have hopen := locked.unclosed holds
  have hrunning : s.down ≠ .panicked := by
    intro hdown
    rw [hdown] at holds
    cases holds
  cases hdown : s.down with
  | answering frame =>
    refine goesOn_of_frame aes capacity s frame room (live.downFrame _ hdown) up hrunning ?_
    intro haccepts
    refine goesOn_of_resume aes capacity s (.downWrite 1) rfl up hrunning ?_
    simp only [resume, downWritten, hdown, hopen, if_pos haccepts]
    split
    · contradiction
    · split <;> rfl
  | unstarted | receiving | delivering | locking | shuttingDown | done | failed | panicked =>
    rw [hdown] at holds
    cases holds

/-- Whoever holds the lock goes on, so a task that waits for it does not wait for ever. -/
theorem goesOn_of_lock (s : Bridge) (room : 0 < capacity) (locked : Locked s) (live : Live s)
    (up : s.up ≠ .panicked) (down : s.down ≠ .panicked)
    (granted : s.holder = none → GoesOn aes capacity s) : GoesOn aes capacity s := by
  cases hholder : s.holder with
  | none => exact granted hholder
  | some side =>
    cases side with
    | up => exact goesOn_up_holds aes capacity s room locked live (live.up hholder) down
    | down => exact goesOn_down_holds aes capacity s room locked live (live.down hholder) up

/-- The task from the client goes on unless it has ended. -/
theorem goesOn_up (s : Bridge) (room : 0 < capacity) (locked : Locked s) (parted : Parted s)
    (live : Live s) (down : s.down ≠ .panicked) :
    GoesOn aes capacity s ∨ s.up = .done ∨ s.up = .failed := by
  have hrunning := parted.cut
  cases hup : s.up with
  | reading splitter =>
    left
    by_cases hclient : s.client = []
    · refine goesOn_of_resume aes capacity s .upEof rfl hrunning down ?_
      simp only [resume, hup, if_pos hclient]
      rfl
    · have hsome := List.length_pos_iff.mpr hclient
      have hread : 0 < 1 ∧ 1 ≤ bufferSize ∧ 1 ≤ s.client.length := ⟨Nat.one_pos, by decide, hsome⟩
      refine goesOn_of_resume aes capacity s (.upRead 1) rfl hrunning down ?_
      simp only [resume, hup, if_pos hread]
      rfl
  | locking splitter chunk =>
    left
    refine goesOn_of_lock aes capacity s room locked live hrunning down fun hfree => ?_
    obtain ⟨parts, next, hcut, -, -⟩ :=
      partsToSend_ok aes splitter chunk (parted.chunk chunk (by simp [hup, upChunk])).1
    refine goesOn_of_resume aes capacity s .upLock rfl hrunning down ?_
    simp only [resume, upLocked, hup, if_pos hfree, hcut]
    rfl
  | lockingClose =>
    left
    refine goesOn_of_lock aes capacity s room locked live hrunning down fun hfree => ?_
    refine goesOn_of_resume aes capacity s .upLock rfl hrunning down ?_
    simp only [resume, upLocked, hup, if_pos hfree]
    rfl
  | holding | writing | closing =>
    left
    exact goesOn_up_holds aes capacity s room locked live (by simp [hup, upHolds]) down
  | done => exact .inr (.inl rfl)
  | failed => exact .inr (.inr rfl)
  | panicked => exact absurd hup hrunning

/-- The task from the WebSocket goes on unless it has ended or was not started. -/
theorem goesOn_down (s : Bridge) (room : 0 < capacity) (locked : Locked s) (parted : Parted s)
    (live : Live s) (down : s.down ≠ .panicked) :
    GoesOn aes capacity s ∨ s.down = .done ∨ s.down = .failed ∨ s.down = .unstarted := by
  have hrunning := parted.cut
  cases hdown : s.down with
  | unstarted => exact .inr (.inr (.inr rfl))
  | receiving =>
    left
    refine goesOn_of_resume aes capacity s .downReceive rfl hrunning down ?_
    simp only [resume, downReceived, hdown]
    split <;> rfl
  | delivering data =>
    left
    exact ⟨_, _, rfl, BridgeBackpressure.step_deliver aes capacity s data hrunning hdown⟩
  | locking payload =>
    left
    refine goesOn_of_lock aes capacity s room locked live hrunning down fun hfree => ?_
    refine goesOn_of_resume aes capacity s (.downLock none) rfl hrunning down ?_
    simp only [resume, downLocked, hdown, if_pos hfree]
    split <;> rfl
  | answering frame =>
    left
    exact goesOn_down_holds aes capacity s room locked live (by simp [hdown, downHolds]) hrunning
  | shuttingDown =>
    left
    refine goesOn_of_resume aes capacity s .downShutdown rfl hrunning down ?_
    simp only [resume, hdown]
    rfl
  | done => exact .inr (.inl rfl)
  | failed => exact .inr (.inr (.inl rfl))
  | panicked => exact absurd hdown down

/-! ## Runs that cannot be continued -/

/-- Both tasks have ended; after a failed greeting the second one never starts. -/
def Ended (s : Bridge) : Prop :=
  (s.up = .done ∨ s.up = .failed) ∧
    (s.down = .done ∨ s.down = .failed ∨ s.down = .unstarted ∧ s.up = .failed)

def AtRest (s : Bridge) : Prop := Stuck (step aes capacity) (fun label => label.isIoError = false) s

theorem atRest_iff (s : Bridge) : AtRest aes capacity s ↔ ¬ GoesOn aes capacity s := by
  simp only [AtRest, Stuck, GoesOn, not_exists, not_and]
  constructor
  · intro h label t healthy hstep
    rw [h label healthy] at hstep
    cases hstep
  · intro h label healthy
    exact Option.eq_none_iff_forall_ne_some.mpr fun t => h label t healthy

theorem ended_step (s t : Bridge) (label : Label) (ended : Ended s)
    (taken : s.wire.length ≤ s.taken) (h : Move aes capacity s label t) : label.isIoError = true := by
  obtain ⟨hup, hdown⟩ := ended
  cases h with
  | upIoError | downIoError => rfl
  | serverTakes k some_taken written => omega
  | upRead splitter n at_point | upEof splitter at_point | upLock splitter next chunk parts at_point
  | upPanic splitter chunk why at_point | upLockClose at_point
  | upSend splitter part parts random at_point | upRefused splitter frame parts k at_point
  | upWrite splitter frame parts k at_point | upRelease splitter at_point | upClose at_point =>
    simp [at_point] at hup
  | downReceive incoming rest at_point | downEnd rest at_point | downUnreadable err rest at_point
  | downPanic why rest at_point | downDeliver data k at_point | downLock payload random at_point
  | downLockRefused payload random at_point | downRefused frame k at_point
  | downWriteLast frame k at_point | downWrite frame k at_point | downShutdown at_point =>
    simp [at_point] at hdown

theorem atRest_of_ended (s : Bridge) (ended : Ended s) (taken : s.wire.length ≤ s.taken) :
    AtRest aes capacity s := by
  intro label healthy
  refine Option.eq_none_iff_forall_ne_some.mpr fun t hstep => ?_
  have herror := ended_step aes capacity s t label ended taken (move_of_step aes capacity s t label hstep)
  rw [healthy] at herror
  cases herror

theorem greeting_failed (s : Bridge) (live : Live s) (down : s.down = .unstarted)
    (ended : s.up = .done ∨ s.up = .failed) : s.up = .failed := by
  rcases ended with hup | hup
  · have hgreeting := live.greeting down
    rw [hup] at hgreeting
    cases hgreeting
  · exact hup

theorem ended_of_rest (s : Bridge) (room : 0 < capacity) (locked : Locked s) (parted : Parted s)
    (live : Live s) (down : s.down ≠ .panicked) (rest : ¬ GoesOn aes capacity s) :
    Ended s ∧ s.wire.length ≤ s.taken := by
  have hup := (goesOn_up aes capacity s room locked parted live down).resolve_left rest
  have hends := (goesOn_down aes capacity s room locked parted live down).resolve_left rest
  refine ⟨⟨hup, ?_⟩, ?_⟩
  · rcases hends with hdone | hfailed | hunstarted
    · exact .inl hdone
    · exact .inr (.inl hfailed)
    · exact .inr (.inr ⟨hunstarted, greeting_failed s live hunstarted hup⟩)
  · by_contra hunread
    exact rest (goesOn_server aes capacity s parted.cut down (Nat.not_le.mp hunread))

/-- Free of deadlocks: in every state that can be reached, failures included, a run can be
continued without a failure until a read panics, or both tasks have ended and the server has
taken all that was written. -/
theorem bridge_stuck_iff (random : Option MaskKey) (init : Bytes)
    (splitter : Option MtProtoMessageSplitter) (client server : Bytes) (labels : List Label)
    (s : Bridge) (room : 0 < capacity)
    (ends : runBridge aes capacity (start random init splitter client server) labels = some s) :
    AtRest aes capacity s ↔ s.down = .panicked ∨ Ended s ∧ s.wire.length ≤ s.taken := by
  obtain ⟨locked, parted, live⟩ :=
    run_live aes capacity random init splitter client server labels s ends
  rw [atRest_iff]
  constructor
  · intro hrest
    by_cases hdown : s.down = .panicked
    · exact .inl hdown
    · exact .inr (ended_of_rest aes capacity s room locked parted live hdown hrest)
  · intro hend
    rw [← atRest_iff]
    rcases hend with hpanic | ⟨hended, htaken⟩
    · intro label healthy
      exact if_pos (.inr hpanic)
    · exact atRest_of_ended aes capacity s hended htaken

/-- The sample run has come to its last Pong, so one side is still to end. -/
theorem bridge_stuck_iff_sample :
    ∃ s, runBridge (fun _ _ _ => 0) 64 (start none [1, 2, 3] none [7, 8] samplePing) sampleLabels =
        some s ∧
      (AtRest (fun _ _ _ => 0) 64 s ↔ s.down = .panicked ∨ Ended s ∧ s.wire.length ≤ s.taken) :=
  ⟨_, rfl, bridge_stuck_iff (fun _ _ _ => 0) 64 none [1, 2, 3] none [7, 8] samplePing sampleLabels _
    (by decide) rfl⟩

/-- Without a failure of the system the task from the client does not fail. -/
theorem up_not_failed_step (s t : Bridge) (label : Label) (locked : Locked s) (up : s.up ≠ .failed)
    (healthy : label.isIoError = false) (h : Move aes capacity s label t) : t.up ≠ .failed := by
  cases h with
  | upRefused splitter frame parts k at_point shut =>
    have hopen := unclosed_of_up s locked (by simp [at_point])
    rw [shut] at hopen
    cases hopen
  | upWrite =>
    dsimp only
    split <;> simp
  | upIoError | downIoError => cases healthy
  | upRead | upEof | upLock | upPanic | upLockClose | upSend | upRelease | upClose => simp
  | downReceive | downEnd | downUnreadable | downPanic | downDeliver | downLock | downLockRefused
  | downRefused | downWriteLast | downWrite | downShutdown | serverTakes => exact up

theorem run_up_not_failed (random : Option MaskKey) (init : Bytes)
    (splitter : Option MtProtoMessageSplitter) (client server : Bytes) (labels : List Label)
    (s : Bridge) (healthy : ∀ label ∈ labels, label.isIoError = false)
    (ends : runBridge aes capacity (start random init splitter client server) labels = some s) :
    s.up ≠ .failed := by
  refine (run_invariant (step aes capacity) (fun s => Locked s ∧ s.up ≠ .failed)
    (fun _ label => label.isIoError = false) ?_ _ s labels
    ⟨start_locked random init splitter client server, by simp [start]⟩
    (along_of_forall _ _ _ labels healthy) ends).2
  rintro s label t ⟨locked, up⟩ healthy hstep
  have move := move_of_step aes capacity s t label hstep
  exact ⟨locked_step aes capacity s t label locked move,
    up_not_failed_step aes capacity s t label locked up healthy move⟩

/-- The task from the client is done, and what the server has taken is the client's stream. -/
structure Completed (init client : Bytes) (s : Bridge) : Prop where
  up : s.up = .done
  down : s.down = .done ∨ s.down = .failed
  taken : s.wire.length ≤ s.taken
  relayed : Relayed init client s.wire s.received

/-- With both tasks at their ends the frames sent are the client's whole stream. -/
theorem relayed_of_ended (init client : Bytes) (s : Bridge) (log : List WsRoundTrip.Outgoing)
    (random : Option MaskKey) (held : init.length ≤ isizeMax) (locked : Locked s)
    (sent : Sent ⟨random, 0x2, init⟩ client s log) (up : s.up = .done)
    (down : s.down = .done ∨ s.down = .failed) : Relayed init client s.wire s.received := by
  have hclient : s.client = [] := locked.eof (by simp [up, upAtEof])
  have hnothing : downFrame s.down = [] ∧ downUnanswered s.down = [] := by
    rcases down with hdown | hdown <;> rw [hdown] <;> exact ⟨rfl, rfl⟩
  obtain ⟨hencoded, hkinds, hbinary, lost, hpongs, -⟩ := sent
  simp only [up, upFrame, upUnsent, upChunk, upParts, hclient, hnothing, List.append_nil,
    Option.getD_none, List.flatten_nil] at hencoded hbinary hpongs
  exact relayed_of_log ⟨random, 0x2, init⟩ log client s.wire s.received rfl held hencoded hkinds
    hbinary ⟨lost, hpongs⟩

/-- At rest after a run without a failure of the system. -/
theorem completed_of_rest (random : Option MaskKey) (init : Bytes)
    (splitter : Option MtProtoMessageSplitter) (client server : Bytes) (labels : List Label)
    (s : Bridge) (room : 0 < capacity) (held : init.length ≤ isizeMax)
    (healthy : ∀ label ∈ labels, label.isIoError = false)
    (ends : runBridge aes capacity (start random init splitter client server) labels = some s)
    (rest : AtRest aes capacity s) (runs : s.down ≠ .panicked) : Completed init client s := by
  obtain ⟨locked, parted, log, sent⟩ :=
    run_sent aes capacity random init splitter client server labels s healthy ends
  have hfailed := run_up_not_failed aes capacity random init splitter client server labels s healthy ends
  obtain ⟨-, -, live⟩ := run_live aes capacity random init splitter client server labels s ends
  rw [atRest_iff] at rest
  obtain ⟨⟨hup, hdown⟩, htaken⟩ := ended_of_rest aes capacity s room locked parted live runs rest
  replace hup : s.up = .done := hup.resolve_right hfailed
  have hended : s.down = .done ∨ s.down = .failed := by
    rcases hdown with hdone | hdown | ⟨-, hgreeting⟩
    · exact .inl hdone
    · exact .inr hdown
    · exact absurd hgreeting hfailed
  exact ⟨hup, hended, htaken, relayed_of_ended init client s log random held locked sent hup hended⟩

theorem run_more (s t u : Bridge) (labels more : List Label)
    (healthy : ∀ label ∈ labels, label.isIoError = false)
    (healthy_more : ∀ label ∈ more, label.isIoError = false)
    (ends : runBridge aes capacity s labels = some t) (ends_more : runBridge aes capacity t more = some u) :
    runBridge aes capacity s (labels ++ more) = some u ∧
      ∀ label ∈ labels ++ more, label.isIoError = false := by
  refine ⟨(run_append_eq_some _ _ _ _ _).mpr ⟨t, ends, ends_more⟩, fun label hmem => ?_⟩
  rcases List.mem_append.mp hmem with hmem | hmem
  · exact healthy label hmem
  · exact healthy_more label hmem

/-- A run without a failure can be continued to an end, and however it is continued to one, it
ends in a panic of a read or with the client's whole stream relayed and taken by the server. -/
theorem bridge_completes (random : Option MaskKey) (init : Bytes)
    (splitter : Option MtProtoMessageSplitter) (client server : Bytes) (labels : List Label)
    (s : Bridge) (room : 0 < capacity) (held : init.length ≤ isizeMax)
    (healthy : ∀ label ∈ labels, label.isIoError = false)
    (ends : runBridge aes capacity (start random init splitter client server) labels = some s) :
    (∃ more t, (∀ label ∈ more, label.isIoError = false) ∧ runBridge aes capacity s more = some t ∧
      AtRest aes capacity t) ∧
    ∀ more t, (∀ label ∈ more, label.isIoError = false) → runBridge aes capacity s more = some t →
      AtRest aes capacity t → t.down = .panicked ∨ Completed init client t := by
  constructor
  · exact exists_stuck (step aes capacity) work Parted _ (work_lowers aes capacity) s
      (reachable_parted aes capacity random init splitter client server labels s ends)
  · intro more t hmore hrun hrest
    obtain ⟨hall, hhealthy⟩ := run_more aes capacity _ s t labels more healthy hmore ends hrun
    by_cases hdown : t.down = .panicked
    · exact .inl hdown
    · exact .inr (completed_of_rest aes capacity random init splitter client server _ t room held
        hhealthy hall hrest hdown)

theorem bridge_completes_sample :
    ∃ s, runBridge (fun _ _ _ => 0) 64 (start none [1, 2, 3] none [7, 8] samplePing) sampleLabels =
        some s ∧
      (∃ more t, (∀ label ∈ more, label.isIoError = false) ∧
        runBridge (fun _ _ _ => 0) 64 s more = some t ∧ AtRest (fun _ _ _ => 0) 64 t) ∧
      ∀ more t, (∀ label ∈ more, label.isIoError = false) →
        runBridge (fun _ _ _ => 0) 64 s more = some t → AtRest (fun _ _ _ => 0) 64 t →
          t.down = .panicked ∨ Completed [1, 2, 3] [7, 8] t :=
  ⟨_, rfl, bridge_completes (fun _ _ _ => 0) 64 none [1, 2, 3] none [7, 8] samplePing sampleLabels _
    (by decide) (by decide) (by decide) rfl⟩

/-- If the server sends well-formed frames and each Pong is due before the writer closes, a run
that cannot be continued has moved everything both ways. -/
theorem bridge_completes_both_ways (random : Option MaskKey) (init : Bytes)
    (splitter : Option MtProtoMessageSplitter) (client : Bytes) (frames : List WireFrame)
    (labels : List Label) (s : Bridge) (room : 0 < capacity) (held : init.length ≤ isizeMax)
    (healthy : ∀ label ∈ labels, label.isIoError = false)
    (in_time : Along (step aes capacity) PongsInTime
      (start random init splitter client (frames.flatMap WireFrame.encode)) labels)
    (ends : runBridge aes capacity
      (start random init splitter client (frames.flatMap WireFrame.encode)) labels = some s)
    (rest : AtRest aes capacity s) :
    Completed init client s ∧ s.down = .done ∧ s.delivered = expectedData frames := by
  obtain ⟨left, -, hdata, hfailed, hpanicked⟩ :=
    run_delivering aes capacity random init splitter client frames labels s in_time ends
  have hcompleted := completed_of_rest aes capacity random init splitter client _ labels s room held
    healthy ends rest hpanicked
  have hdone := hcompleted.down.resolve_right hfailed
  rw [hdone, toDeliver, List.append_nil] at hdata
  exact ⟨hcompleted, hdone, hdata⟩

/-- The Pong is sent first, and the server takes it all. -/
def pongFirstTaken : List Label := pongFirst ++ [.serverTakes 16]

theorem bridge_completes_both_ways_sample :
    ∃ s, runBridge (fun _ _ _ => 0) 64 sampleStart pongFirstTaken = some s ∧
      Completed [1, 2, 3] [] s ∧ s.down = .done ∧ s.delivered = expectedData sampleServer := by
  obtain ⟨s, hrun, hup, hdown, htaken⟩ : ∃ s, runBridge (fun _ _ _ => 0) 64 sampleStart pongFirstTaken =
      some s ∧ s.up = .done ∧ s.down = .done ∧ s.wire.length ≤ s.taken :=
    ⟨_, rfl, rfl, rfl, by decide⟩
  exact ⟨s, hrun, bridge_completes_both_ways (fun _ _ _ => 0) 64 none [1, 2, 3] none [] sampleServer
    pongFirstTaken s (by decide) (by decide) (by decide) (by decide) hrun
    (atRest_of_ended (fun _ _ _ => 0) 64 s ⟨.inl hup, .inl hdown⟩ htaken)⟩

end TgWsProxy.Guarantees.BridgeLiveness
