import TgWsProxy.Guarantees.BridgeLiveness
import TgWsProxy.Source.Relay.Metered

/-!
# What the bridge reports

The counters are kept beside the bridge and no step reads them, so a run with counters is
a run (`Transition.run_observed`). They say what the tasks read (`Counted`), and what was
delivered is the data received, but for what is in hand (`Handed`).

`bridge_ws_tcp` returns the counters only if both tasks came to their end. No operation
has failed then, no Pong was refused, and the two streams have been moved whole
(`bridge_ok_spec`): the report is about a session that lost nothing.
-/

set_option autoImplicit false

namespace TgWsProxy.Guarantees.BridgeSummary
open Library Library.Io Library.Transition Source.Telegram Source.Ws Source.Relay
open BridgeLock BridgeUpstream BridgeDownstream BridgeLiveness

/-! ## What was read -/

/-- The size of the read that a label makes from the client. -/
def readSize (label : Label) : List Nat :=
  match label with
  | .upRead n => [n]
  | _ => []

/-- The data of the binary frames received. -/
def binaries (received : List WsIncoming) : List Bytes :=
  received.filterMap fun incoming =>
    match incoming with
    | .binary data => some data
    | _ => none

/-- Why the WebSocket's stream ended, or would if it ended here. -/
def endReason (received : List WsIncoming) : String :=
  match received.getLast? with
  | some (.close info) => closeReason info
  | _ => "ws_eof"

def closesStream (incoming : WsIncoming) : Bool :=
  match incoming with
  | .close _ => true
  | _ => false

/-- The task receives nothing more. -/
def downOver (down : Down) : Bool :=
  match down with
  | .shuttingDown | .done | .failed | .panicked => true
  | _ => false

def inHand (down : Down) : Bytes :=
  match down with
  | .delivering data => data
  | _ => []

theorem inHand_receiving : inHand .receiving = [] := rfl

theorem binaries_snoc (received : List WsIncoming) (incoming : WsIncoming) :
    binaries (received ++ [incoming]) = binaries received ++ binaries [incoming] :=
  List.filterMap_append

theorem endReason_snoc (received : List WsIncoming) (incoming : WsIncoming) :
    endReason (received ++ [incoming]) = endReason [incoming] := by
  simp [endReason]

/-- A Close is the last frame received. -/
structure Handed (s : Bridge) : Prop where
  data : s.down ≠ .failed → s.delivered ++ inHand s.down = (binaries s.received).flatten
  last : downOver s.down = false → ∀ incoming ∈ s.received, closesStream incoming = false

variable (aes : Aes256) (capacity : Nat)

theorem start_handed (random : Option MaskKey) (init : Bytes)
    (splitter : Option MtProtoMessageSplitter) (client server : Bytes) :
    Handed (start random init splitter client server) where
  data _ := rfl
  last _ incoming h := by cases h

theorem downAfter_handed (incoming : WsIncoming) :
    inHand (.after incoming) = (binaries [incoming]).flatten ∧
      downOver (.after incoming) = closesStream incoming := by
  cases incoming <;> simp [Down.after, inHand, binaries, downOver, closesStream]

/-- A step of the task that receives nothing and has nothing in hand, before or after. -/
theorem handed_idle (s t : Bridge) (handed : Handed s) (running : s.down ≠ .failed)
    (going : downOver s.down = false ∨ downOver t.down = true) (before : inHand s.down = [])
    (after : inHand t.down = []) (received : t.received = s.received)
    (delivered : t.delivered = s.delivered) : Handed t := by
  refine ⟨fun _ => ?_, fun hgoing => ?_⟩
  · rw [after, received, delivered, ← handed.data running, before]
  · rw [received]
    rcases going with hgoes | hover
    · exact handed.last hgoes
    · rw [hover] at hgoing
      cases hgoing

theorem handed_frame (s t : Bridge) (handed : Handed s) (down : t.down = s.down)
    (received : t.received = s.received) (delivered : t.delivered = s.delivered) : Handed t := by
  refine ⟨?_, ?_⟩
  · rw [down, received, delivered]
    exact handed.data
  · rw [down, received]
    exact handed.last

theorem handed_step (s t : Bridge) (label : Label) (handed : Handed s) (h : Move aes capacity s label t) :
    Handed t := by
  cases h with
  | upRead | upEof | upLock | upPanic | upLockClose | upSend | upRefused | upWrite | upClose
  | serverTakes => exact handed_frame s _ handed rfl rfl rfl
  | upIoError t failed =>
    obtain ⟨holder, rfl⟩ := upFailed_frame s t failed
    exact handed_frame s _ handed rfl rfl rfl
  | upRelease splitter at_point =>
    by_cases hdown : s.down = .unstarted
    · have hdata := handed.data (by simp [hdown])
      have hlast := handed.last (by simp [hdown, downOver])
      rw [hdown] at hdata
      exact ⟨fun _ => by rw [if_pos hdown]; exact hdata, fun _ => hlast⟩
    · exact handed_frame s _ handed (if_neg hdown) rfl rfl
  | downReceive incoming rest at_point frame =>
    obtain ⟨hhand, hover⟩ := downAfter_handed incoming
    have hdata := handed.data (by simp [at_point])
    have hlast := handed.last (by simp [at_point, downOver])
    rw [at_point, inHand_receiving, List.append_nil] at hdata
    refine ⟨fun _ => ?_, fun hgoing other hmem => ?_⟩
    · dsimp only
      rw [hhand, hdata, binaries_snoc, List.flatten_append]
    · rcases List.mem_append.mp hmem with hmem | hmem
      · exact hlast other hmem
      · obtain rfl := List.mem_singleton.mp hmem
        exact hover.symm.trans hgoing
  | downDeliver data k at_point =>
    have hdata := handed.data (by simp [at_point])
    have hlast := handed.last (by simp [at_point, downOver])
    rw [at_point, inHand] at hdata
    refine ⟨fun _ => ?_, fun _ => hlast⟩
    dsimp only
    split
    · rename_i hk
      rw [hk, List.take_length, inHand_receiving, List.append_nil]
      exact hdata
    · rw [inHand, List.append_assoc, List.take_append_drop]
      exact hdata
  | downEnd rest at_point | downPanic why rest at_point | downShutdown at_point =>
    exact handed_idle s _ handed (by simp [at_point]) (.inr rfl) (by simp [at_point, inHand]) rfl rfl rfl
  | downLock payload random at_point | downWriteLast frame k at_point | downWrite frame k at_point =>
    exact handed_idle s _ handed (by simp [at_point]) (.inl (by simp [at_point, downOver]))
      (by simp [at_point, inHand]) rfl rfl rfl
  | downUnreadable err rest at_point | downLockRefused payload random at_point
  | downRefused frame k at_point =>
    exact ⟨fun h => absurd rfl h, fun h => by cases h⟩
  | downIoError t failed =>
    obtain ⟨holder, rfl⟩ := downFailed_frame s t failed
    exact ⟨fun h => absurd rfl h, fun h => by cases h⟩

/-! ## What was counted -/

structure Counted (client : Bytes) (s : Bridge) (m : Meters) (sizes : List Nat) : Prop where
  left : s.client.length ≤ client.length
  upBytes : m.up.bytes = UInt64.ofNat (client.length - s.client.length)
  upPackets : m.up.packets = UInt64.ofNat sizes.length
  upEnd : m.up.endReason = "client_eof"
  downBytes : m.down.bytes = UInt64.ofNat (binaries s.received).flatten.length
  downPackets : m.down.packets = UInt64.ofNat (binaries s.received).length
  downEnd : m.down.endReason = endReason s.received

theorem start_counted (random : Option MaskKey) (init : Bytes)
    (splitter : Option MtProtoMessageSplitter) (client server : Bytes) :
    Counted client (start random init splitter client server) .zero [] where
  left := Nat.le_refl _
  upBytes := by simp [start, Meters.zero]
  upPackets := rfl
  upEnd := rfl
  downBytes := rfl
  downPackets := rfl
  downEnd := rfl

theorem endReason_open (received : List WsIncoming)
    (h : ∀ incoming ∈ received, closesStream incoming = false) : endReason received = "ws_eof" := by
  unfold endReason
  split
  · rename_i info hlast
    have hopen := h _ (List.mem_of_getLast? hlast)
    cases hopen
  · rfl

/-- A step that reads nothing leaves the counters alone. -/
theorem counted_quiet (client : Bytes) (s t : Bridge) (m : Meters) (label : Label) (sizes : List Nat)
    (counted : Counted client s m sizes) (meters : m.record s label = m) (size : readSize label = [])
    (left : t.client = s.client) (received : t.received = s.received) :
    Counted client t (m.record s label) (sizes ++ readSize label) := by
  rw [meters, size, List.append_nil]
  obtain ⟨hleft, hbytes, hpackets, hend, hdown, hcount, hreason⟩ := counted
  exact ⟨by rwa [left], by rwa [left], hpackets, hend, by rwa [received], by rwa [received],
    by rwa [received]⟩

theorem counted_received (client : Bytes) (s : Bridge) (m : Meters) (sizes : List Nat)
    (handed : Handed s) (counted : Counted client s m sizes) (receiving : s.down = .receiving)
    (incoming : WsIncoming) (rest : Duplex)
    (frame : recvFrame.run ⟨s.server, []⟩ = (.ok (some incoming), rest)) (t : Bridge)
    (left : t.client = s.client) (received : t.received = s.received ++ [incoming]) :
    Counted client t (m.record s .downReceive) (sizes ++ readSize .downReceive) := by
  have hopen := endReason_open s.received (handed.last (by simp [receiving, downOver]))
  obtain ⟨hleft, hbytes, hpackets, hend, hdown, hcount, hreason⟩ := counted
  have hnone : readSize .downReceive = [] := rfl
  rw [hnone, List.append_nil, Meters.record, frame]
  refine ⟨by rwa [left], ?_, ?_, ?_, ?_, ?_, ?_⟩
  · rw [left, ← hbytes]
    cases incoming <;> rfl
  · rw [← hpackets]
    cases incoming <;> rfl
  · rw [← hend]
    cases incoming <;> rfl
  · rw [received, binaries_snoc, List.flatten_append, List.length_append, UInt64.ofNat_add, ← hdown]
    cases incoming <;> simp [binaries, BridgeStats.count]
  · rw [received, binaries_snoc, List.length_append, UInt64.ofNat_add, ← hcount]
    cases incoming <;> simp [binaries, BridgeStats.count]
  · rw [received, endReason_snoc]
    rw [hopen] at hreason
    cases incoming with
    | close info => rfl
    | binary data => exact hreason
    | ping payload => exact hreason

/-- What the source counts at each step. -/
theorem counted_step (client : Bytes) (s t : Bridge) (m : Meters) (label : Label) (sizes : List Nat)
    (handed : Handed s) (counted : Counted client s m sizes) (h : Move aes capacity s label t) :
    Counted client t (m.record s label) (sizes ++ readSize label) := by
  cases h with
  | upRead splitter n at_point some_read in_buffer sent =>
    obtain ⟨hleft, hbytes, hpackets, hend, hdown, hcount, hreason⟩ := counted
    refine ⟨?_, ?_, ?_, hend, hdown, hcount, hreason⟩
    · dsimp only
      rw [List.length_drop]
      omega
    · have hmore : client.length - (s.client.drop n).length = client.length - s.client.length + n := by
        rw [List.length_drop]
        omega
      rw [hmore, UInt64.ofNat_add, ← hbytes]
      rfl
    · rw [readSize, List.length_append, UInt64.ofNat_add, ← hpackets]
      rfl
  | upEof | upLock | upPanic | upLockClose | upSend | upRefused | upWrite | upRelease | upClose
  | downDeliver | downLock | downLockRefused | downRefused | downWriteLast | downWrite | downShutdown
  | serverTakes => exact counted_quiet client s _ m _ sizes counted rfl rfl rfl rfl
  | upIoError t failed =>
    obtain ⟨holder, rfl⟩ := upFailed_frame s t failed
    exact counted_quiet client s _ m _ sizes counted rfl rfl rfl rfl
  | downReceive incoming rest at_point frame =>
    exact counted_received client s m sizes handed counted at_point incoming rest frame _ rfl rfl
  | downEnd rest at_point frame | downUnreadable err rest at_point frame
  | downPanic why rest at_point frame =>
    have hmeters : m.record s .downReceive = m := by rw [Meters.record, frame]
    exact counted_quiet client s _ m _ sizes counted hmeters rfl rfl rfl
  | downIoError t failed =>
    obtain ⟨holder, rfl⟩ := downFailed_frame s t failed
    exact counted_quiet client s _ m _ sizes counted rfl rfl rfl rfl

theorem run_counted (random : Option MaskKey) (init : Bytes)
    (splitter : Option MtProtoMessageSplitter) (client server : Bytes) (labels : List Label)
    (s : Bridge) (m : Meters)
    (ends : run (meteredStep aes capacity) (start random init splitter client server, .zero) labels =
      some (s, m)) : Handed s ∧ Counted client s m (labels.flatMap readSize) := by
  have hinv := run_outputs (meteredStep aes capacity) (fun _ label _ => readSize label)
    (fun r sizes => Handed r.1 ∧ Counted client r.1 r.2 sizes) (fun _ _ => True) ?_ _ (s, m) [] labels
    ⟨start_handed random init splitter client server, start_counted random init splitter client server⟩
    (along_of_forall _ (fun _ => True) _ labels fun _ _ => trivial) ends
  · rwa [outputs_eq_flatMap _ readSize _ (s, m) labels ends] at hinv
  · rintro ⟨r, before⟩ sizes label ⟨r', after⟩ ⟨handed, counted⟩ - hstep
    obtain ⟨hmove, rfl⟩ := (observed_eq_some _ _ _ _ _).mp hstep
    have move := move_of_step aes capacity r r' label hmove
    exact ⟨handed_step aes capacity r r' label handed move,
      counted_step aes capacity client r r' before label sizes handed counted move⟩

/-! ## A session that returns its counters -/

theorem up_failed_step (s t : Bridge) (label : Label) (failed : s.up = .failed)
    (h : Move aes capacity s label t) : t.up = .failed := by
  cases h with
  | upRead splitter n at_point | upEof splitter at_point | upLock splitter next chunk parts at_point
  | upPanic splitter chunk why at_point | upLockClose at_point
  | upSend splitter part parts random at_point | upWrite splitter frame parts k at_point
  | upRelease splitter at_point | upClose at_point =>
    rw [failed] at at_point
    cases at_point
  | upRefused => rfl
  | upIoError t h => simp [upFailed, failed] at h
  | downIoError t h =>
    obtain ⟨holder, rfl⟩ := downFailed_frame s t h
    exact failed
  | downReceive | downEnd | downUnreadable | downPanic | downDeliver | downLock | downLockRefused
  | downRefused | downWriteLast | downWrite | downShutdown | serverTakes => exact failed

theorem ioError_fails (s t : Bridge) (label : Label) (error : label.isIoError = true)
    (h : Move aes capacity s label t) : t.up = .failed ∨ t.down = .failed := by
  cases h with
  | upIoError t h =>
    obtain ⟨holder, rfl⟩ := upFailed_frame s t h
    exact .inl rfl
  | downIoError t h =>
    obtain ⟨holder, rfl⟩ := downFailed_frame s t h
    exact .inr rfl
  | _ => cases error

/-- A run after which neither task has failed has met no failure of the system. -/
theorem healthy_of_unfailed (s t : Bridge) (labels : List Label)
    (ends : runBridge aes capacity s labels = some t) (up : t.up ≠ .failed) (down : t.down ≠ .failed) :
    ∀ label ∈ labels, label.isIoError = false := by
  intro label hmem
  by_contra herror
  obtain ⟨before, after, rfl⟩ := List.append_of_mem hmem
  obtain ⟨middle, -, hrest⟩ := (run_append_eq_some _ _ _ _ _).mp ends
  obtain ⟨next, hstep, hafter⟩ := (run_cons_eq_some _ _ _ _ _).mp hrest
  have hfails := ioError_fails aes capacity middle next label (Bool.eq_true_of_not_eq_false herror)
    (move_of_step aes capacity middle next label hstep)
  have hend := run_invariant_of_step (step aes capacity) (fun r => r.up = .failed ∨ r.down = .failed)
    ?_ next t after hfails hafter
  · exact hend.elim up down
  · intro r label r' hfailed hstep
    have move := move_of_step aes capacity r r' label hstep
    rcases hfailed with h | h
    · exact .inl (up_failed_step aes capacity r r' label h move)
    · exact .inr (failed_step aes capacity r r' label h move).1

/-- A Pong that is not due in time ends the task, so data is lost only with a failure. -/
theorem delivering_or_failed (frames : List WireFrame) (s t : Bridge) (label : Label)
    (locked : Locked s) (h : Move aes capacity s label t)
    (delivering : s.down = .failed ∨ ∃ rest, Delivering frames s rest) :
    t.down = .failed ∨ ∃ rest, Delivering frames t rest := by
  rcases delivering with hfailed | ⟨rest, delivering⟩
  · exact .inl (failed_step aes capacity s t label hfailed h).1
  · by_cases in_time : PongsInTime s label
    · exact .inr (delivering_step aes capacity frames rest s t label locked delivering in_time h)
    · left
      cases h with
      | downIoError t h =>
        obtain ⟨holder, rfl⟩ := downFailed_frame s t h
        rfl
      | downLockRefused => rfl
      | downLock payload random at_point free unclosed =>
        exact absurd ⟨by simp, fun _ => unclosed⟩ in_time
      | _ => exact absurd ⟨by simp, by simp [startsPong]⟩ in_time

theorem delivered_of_done (random : Option MaskKey) (init : Bytes)
    (splitter : Option MtProtoMessageSplitter) (client : Bytes) (frames : List WireFrame)
    (labels : List Label) (s : Bridge)
    (ends : runBridge aes capacity
      (start random init splitter client (frames.flatMap WireFrame.encode)) labels = some s)
    (done : s.down = .done) : s.delivered = expectedData frames := by
  have hinv := run_invariant_of_step (step aes capacity)
    (fun s => Locked s ∧ (s.down = .failed ∨ ∃ rest, Delivering frames s rest)) ?_ _ s labels
    ⟨start_locked random init splitter client _, .inr ⟨frames,
      start_delivering random init splitter client frames⟩⟩ ends
  · rcases hinv.2 with hfailed | ⟨rest, -, hdata, -⟩
    · rw [done] at hfailed
      cases hfailed
    · rwa [done, toDeliver, List.append_nil] at hdata
  · rintro s label t ⟨locked, delivering⟩ hstep
    have move := move_of_step aes capacity s t label hstep
    exact ⟨locked_step aes capacity s t label locked move,
      delivering_or_failed aes capacity frames s t label locked move delivering⟩

theorem ended_of_result (s : Bridge) (m report : Meters) (h : bridgeResult s m = some (.ok report)) :
    s.up = .done ∧ s.down = .done ∧ report = m := by
  unfold bridgeResult at h
  split at h
  · cases h
  · rename_i hup hdown
    exact ⟨hup, hdown, (Except.ok.inj (Option.some.inj h)).symm⟩
  · cases h
  · cases h
  · cases h
  · cases h

theorem runBridge_of_metered (s t : Bridge) (m m' : Meters) (labels : List Label)
    (ends : run (meteredStep aes capacity) (s, m) labels = some (t, m')) :
    runBridge aes capacity s labels = some t := by
  have hobserved := run_observed (step aes capacity) Meters.record (s, m) labels
  rw [ends] at hobserved
  exact hobserved.symm

/-- The client's stream is relayed whole once both tasks are done. -/
theorem relayed_of_done (random : Option MaskKey) (init : Bytes)
    (splitter : Option MtProtoMessageSplitter) (client server : Bytes) (labels : List Label)
    (s : Bridge) (held : init.length ≤ isizeMax)
    (ends : runBridge aes capacity (start random init splitter client server) labels = some s)
    (up : s.up = .done) (down : s.down = .done) : Relayed init client s.wire s.received := by
  have healthy := healthy_of_unfailed aes capacity _ s labels ends (by simp [up]) (by simp [down])
  obtain ⟨locked, -, log, sent⟩ :=
    run_sent aes capacity random init splitter client server labels s healthy ends
  exact relayed_of_ended init client s log random held locked sent up (.inl down)

/-- Whatever may have failed, a session that returns its counters has relayed the client's whole
stream and delivered all that it received, and the counters say how much that is. If the server
sent well-formed frames, it has delivered all their data. -/
theorem bridge_ok_spec (random : Option MaskKey) (init : Bytes)
    (splitter : Option MtProtoMessageSplitter) (client server : Bytes) (labels : List Label)
    (s : Bridge) (m report : Meters) (held : init.length ≤ isizeMax)
    (ends : run (meteredStep aes capacity) (start random init splitter client server, .zero) labels =
      some (s, m)) (ok : bridgeResult s m = some (.ok report)) :
    Relayed init client s.wire s.received ∧
    s.delivered = (binaries s.received).flatten ∧
    (∀ frames, server = frames.flatMap WireFrame.encode → s.delivered = expectedData frames) ∧
    report.up = ⟨UInt64.ofNat client.length, UInt64.ofNat (labels.flatMap readSize).length, "client_eof"⟩ ∧
    report.down = ⟨UInt64.ofNat s.delivered.length, UInt64.ofNat (binaries s.received).length,
      endReason s.received⟩ := by
  obtain ⟨hup, hdown, rfl⟩ := ended_of_result s m report ok
  obtain ⟨handed, counted⟩ :=
    run_counted aes capacity random init splitter client server labels s report ends
  have hrun := runBridge_of_metered aes capacity _ s _ report labels ends
  have hrelayed := relayed_of_done aes capacity random init splitter client server labels s held hrun hup hdown
  have hclient := (run_live aes capacity random init splitter client server labels s hrun).1.eof
    (by simp [hup, upAtEof])
  have hdata := handed.data (by simp [hdown])
  rw [hdown, show inHand .done = [] from rfl, List.append_nil] at hdata
  refine ⟨hrelayed, hdata, ?_, ?_, ?_⟩
  · rintro frames rfl
    exact delivered_of_done aes capacity random init splitter client frames labels s hrun hdown
  · have hbytes := counted.upBytes
    rw [hclient, List.length_nil, Nat.sub_zero] at hbytes
    rw [← hbytes, ← counted.upPackets, ← counted.upEnd]
  · rw [hdata, ← counted.downBytes, ← counted.downPackets, ← counted.downEnd]

theorem bridge_ok_spec_sample :
    ∃ s m, run (meteredStep (fun _ _ _ => 0) 64) (sampleStart, .zero) pongFirst = some (s, m) ∧
      Relayed [1, 2, 3] [] s.wire s.received ∧ s.delivered = (binaries s.received).flatten ∧
      (∀ frames, sampleServer.flatMap WireFrame.encode = frames.flatMap WireFrame.encode →
        s.delivered = expectedData frames) ∧
      m.up = ⟨0, 0, "client_eof"⟩ ∧
      m.down = ⟨UInt64.ofNat s.delivered.length, UInt64.ofNat (binaries s.received).length,
        endReason s.received⟩ := by
  obtain ⟨s, m, hrun, hok⟩ : ∃ s m, run (meteredStep (fun _ _ _ => 0) 64) (sampleStart, .zero) pongFirst =
      some (s, m) ∧ bridgeResult s m = some (.ok m) := ⟨_, _, rfl, rfl⟩
  exact ⟨s, m, hrun, bridge_ok_spec (fun _ _ _ => 0) 64 none [1, 2, 3] none [] _ pongFirst s m m
    (by decide) hrun hok⟩

end TgWsProxy.Guarantees.BridgeSummary
