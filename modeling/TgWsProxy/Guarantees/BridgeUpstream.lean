import TgWsProxy.Guarantees.BridgeLock
import TgWsProxy.Guarantees.WsRoundTrip

/-!
# What the bridge sends to the server

The writer is shared, so the octets on the wire are those of a log of whole
frames, the last one perhaps still being written by the task that holds the lock
(`Sent`). The log grows by a frame when a task starts to write one. Its binary
payloads are the client's octets read so far, less those of the chunk in hand,
and its Pongs answer the Pings in order.

Only one task has a frame in flight (`Locked`), and no part of a chunk is empty
or too long to be read back (`Parted`).
-/

set_option autoImplicit false

namespace TgWsProxy.Guarantees.BridgeUpstream
open Library Library.Io Library.Transition Source.Telegram Source.Ws Source.Relay WsRoundTrip BridgeLock

/-! ## What a program point holds -/

/-- What is left of the frame in flight. -/
def upFrame (up : Up) : Bytes :=
  match up with
  | .writing _ frame _ => frame
  | _ => []

def upParts (up : Up) : List Bytes :=
  match up with
  | .holding _ parts | .writing _ _ parts => parts
  | _ => []

def upChunk (up : Up) : Option Bytes :=
  match up with
  | .locking _ chunk => some chunk
  | _ => none

/-- Octets read from the client for which no frame has been started. -/
def upUnsent (up : Up) : Bytes := (upChunk up).getD [] ++ (upParts up).flatten

def downFrame (down : Down) : Bytes :=
  match down with
  | .answering frame => frame
  | _ => []

/-- The Ping for which no Pong has been started. -/
def downUnanswered (down : Down) : List Bytes :=
  match down with
  | .locking payload => [payload]
  | _ => []

variable (aes : Aes256) (capacity : Nat)

/-! ## The sizes of what is sent -/

structure Parted (s : Bridge) : Prop where
  chunk : ∀ c ∈ upChunk s.up, c ≠ [] ∧ c.length ≤ bufferSize
  parts : ∀ p ∈ upParts s.up, p ≠ [] ∧ p.length ≤ bufferSize
  ping : ∀ p ∈ downUnanswered s.down, p.length ≤ isizeMax
  cut : s.up ≠ .panicked

theorem start_parted (random : Option MaskKey) (init : Bytes)
    (splitter : Option MtProtoMessageSplitter) (client server : Bytes) :
    Parted (start random init splitter client server) where
  chunk c h := by cases h
  parts p h := by cases h
  ping p h := by cases h
  cut h := by cases h

theorem downAfter_unanswered (s : Bridge) (incoming : WsIncoming) (rest : Duplex)
    (frame : recvFrame.run ⟨s.server, []⟩ = (.ok (some incoming), rest)) :
    ∀ p ∈ downUnanswered (.after incoming), p.length ≤ isizeMax := by
  intro p hp
  cases incoming with
  | ping payload =>
    obtain rfl := List.mem_singleton.mp hp
    exact recvFrame_ping _ _ p frame
  | binary data | close info => cases hp

theorem parted_step (s t : Bridge) (label : Label) (parted : Parted s)
    (h : Move aes capacity s label t) : Parted t := by
  cases h with
  | upRead splitter n at_point some_read in_buffer sent =>
    refine { parted with chunk := ?_, parts := by simp [upParts], cut := by simp }
    intro c hc
    obtain rfl := Option.some.inj hc
    have hlen : (s.client.take n).length = n := List.length_take_of_le sent
    exact ⟨List.length_pos_iff.mp (by omega), by omega⟩
  | upLock splitter next chunk parts at_point free cut =>
    obtain ⟨hne, hle⟩ := parted.chunk chunk (by simp [at_point, upChunk])
    obtain ⟨parts', next', hcut, hflat, hparts⟩ := partsToSend_ok aes splitter chunk hne
    rw [cut] at hcut
    obtain ⟨rfl, rfl⟩ := Prod.mk.inj (Except.ok.inj hcut)
    refine { parted with chunk := by simp [upChunk], parts := ?_, cut := by simp }
    intro p hp
    simp only [upParts] at hp
    have hsub := (List.sublist_flatten_of_mem hp).length_le
    rw [hflat] at hsub
    exact ⟨hparts p hp, by omega⟩
  | upSend splitter part parts random at_point =>
    refine { parted with chunk := by simp [upChunk], parts := ?_, cut := by simp }
    intro p hp
    exact parted.parts p (by simp only [at_point, upParts]; exact List.mem_cons_of_mem part hp)
  | upWrite splitter frame parts k at_point =>
    refine { parted with chunk := ?_, parts := ?_, cut := ?_ }
    · dsimp only
      split <;> simp [upChunk]
    · have hparts := parted.parts
      simp only [at_point, upParts] at hparts
      dsimp only
      split <;> exact hparts
    · dsimp only
      split <;> simp
  | upRelease splitter at_point =>
    refine { chunk := by simp [upChunk], parts := by simp [upParts], ping := ?_, cut := by simp }
    dsimp only
    split
    · simp [downUnanswered]
    · exact parted.ping
  | upPanic splitter chunk why at_point cut =>
    obtain ⟨parts', next', hcut, -, -⟩ :=
      partsToSend_ok aes splitter chunk (parted.chunk chunk (by simp [at_point, upChunk])).1
    rw [cut] at hcut
    cases hcut
  | upEof | upLockClose | upRefused | upClose =>
    exact { parted with
      chunk := by simp [upChunk]
      parts := by simp [upParts]
      cut := by simp }
  | upIoError t failed =>
    obtain ⟨holder, rfl⟩ := upFailed_frame s t failed
    exact { parted with
      chunk := by simp [upChunk]
      parts := by simp [upParts]
      cut := by simp }
  | downReceive incoming rest at_point frame =>
    exact { parted with ping := downAfter_unanswered s incoming rest frame }
  | downDeliver data k at_point =>
    refine { parted with ping := ?_ }
    dsimp only
    split <;> simp [downUnanswered]
  | downEnd | downUnreadable | downPanic | downShutdown | downLockRefused | downLock | downRefused
  | downWriteLast | downWrite =>
    exact { parted with ping := by simp [downUnanswered] }
  | downIoError t failed =>
    obtain ⟨holder, rfl⟩ := downFailed_frame s t failed
    exact { parted with ping := by simp [downUnanswered] }
  | serverTakes k => exact { parted with }

/-! ## The log of frames -/

def payloadsOf (opcode : UInt8) (log : List Outgoing) : List Bytes :=
  (log.filter (·.opcode == opcode)).map (·.payload)

theorem payloadsOf_append (opcode : UInt8) (log more : List Outgoing) :
    payloadsOf opcode (log ++ more) = payloadsOf opcode log ++ payloadsOf opcode more := by
  simp [payloadsOf]

def pings (received : List WsIncoming) : List Bytes :=
  received.filterMap fun incoming =>
    match incoming with
    | .ping payload => some payload
    | _ => none

/-- The Pongs started, the Ping in hand and what a failure lost are the Pings received. -/
def Answers (s : Bridge) (pongs : List Bytes) : Prop :=
  ∃ lost, pongs ++ downUnanswered s.down ++ lost = pings s.received ∧
    (s.down ≠ .failed → lost = [])

/-- The Ping that a step starts to answer. -/
def pongStarted (s : Bridge) (label : Label) : List Bytes :=
  match label, s.down with
  | .downLock _, .locking payload => if s.closed then [] else [payload]
  | _, _ => []

theorem downAfter_pings (received : List WsIncoming) (incoming : WsIncoming) :
    pings (received ++ [incoming]) = pings received ++ downUnanswered (.after incoming) ∧
      downFrame (.after incoming) = [] := by
  cases incoming <;> simp [pings, Down.after, downUnanswered, downFrame]

/-- The start of the second task is the only change that the first makes to it. -/
theorem started_eq (down : Down) :
    downFrame (if down = .unstarted then .receiving else down) = downFrame down ∧
    downUnanswered (if down = .unstarted then .receiving else down) = downUnanswered down ∧
    ((if down = .unstarted then .receiving else down) ≠ .failed ↔ down ≠ .failed) := by
  split
  · rename_i h
    simp [h, downFrame, downUnanswered]
  · simp

/-- While the second task runs, no Ping is lost. -/
theorem answers_running (s : Bridge) (pongs : List Bytes) (answers : Answers s pongs)
    (running : s.down ≠ .failed) : pongs ++ downUnanswered s.down = pings s.received := by
  obtain ⟨lost, hpongs, hlost⟩ := answers
  rw [hlost running, List.append_nil] at hpongs
  exact hpongs

/-- A step that the second task takes with no Ping in hand, before or after. -/
theorem answers_idle (s t : Bridge) (pongs : List Bytes) (answers : Answers s pongs)
    (running : s.down ≠ .failed) (before : downUnanswered s.down = [])
    (after : downUnanswered t.down = []) (received : t.received = s.received) :
    Answers t (pongs ++ []) := by
  have hpongs := answers_running s pongs answers running
  rw [before, List.append_nil] at hpongs
  exact ⟨[], by simp [after, received, hpongs], fun _ => rfl⟩

/-- A step that leaves the second task and what it received alone. -/
theorem answers_frame (s t : Bridge) (pongs : List Bytes) (answers : Answers s pongs)
    (down : t.down = s.down) (received : t.received = s.received) : Answers t (pongs ++ []) := by
  unfold Answers
  rw [down, received, List.append_nil]
  exact answers

theorem answers_step (s t : Bridge) (label : Label) (pongs : List Bytes) (answers : Answers s pongs)
    (h : Move aes capacity s label t) : Answers t (pongs ++ pongStarted s label) := by
  cases h with
  | upRead | upEof | upLock | upPanic | upLockClose | upSend | upRefused | upWrite | upClose
  | serverTakes => exact answers_frame s _ pongs answers rfl rfl
  | upIoError t failed =>
    obtain ⟨holder, rfl⟩ := upFailed_frame s t failed
    exact answers_frame s _ pongs answers rfl rfl
  | upRelease splitter at_point =>
    obtain ⟨-, hunanswered, hfailed⟩ := started_eq s.down
    unfold Answers
    dsimp only
    simp only [hunanswered, hfailed, pongStarted, List.append_nil]
    exact answers
  | downReceive incoming rest at_point frame =>
    have hpongs := answers_running s pongs answers (by simp [at_point])
    simp only [at_point, downUnanswered, List.append_nil] at hpongs
    refine ⟨[], ?_, fun _ => rfl⟩
    dsimp only
    rw [(downAfter_pings s.received incoming).1, ← hpongs]
    simp [pongStarted]
  | downDeliver data k at_point =>
    refine answers_idle s _ pongs answers (by simp [at_point]) (by simp [at_point, downUnanswered]) ?_ rfl
    dsimp only
    split <;> rfl
  | downEnd rest at_point | downUnreadable err rest at_point | downPanic why rest at_point
  | downShutdown at_point | downRefused frame k at_point | downWriteLast frame k at_point
  | downWrite frame k at_point =>
    exact answers_idle s _ pongs answers (by simp [at_point]) (by simp [at_point, downUnanswered]) rfl rfl
  | downLock payload random at_point free unclosed =>
    have hpongs := answers_running s pongs answers (by simp [at_point])
    simp only [at_point, downUnanswered] at hpongs
    refine ⟨[], ?_, fun _ => rfl⟩
    simpa [pongStarted, at_point, unclosed, downUnanswered] using hpongs
  | downLockRefused payload random at_point free shut =>
    -- the Ping in hand is the one that stays without an answer
    have hpongs := answers_running s pongs answers (by simp [at_point])
    simp only [at_point, downUnanswered] at hpongs
    refine ⟨[payload], ?_, by simp⟩
    simpa [pongStarted, at_point, shut, downUnanswered] using hpongs
  | downIoError t failed =>
    have hrunning : s.down ≠ .failed := by
      intro hdown
      simp [downFailed, hdown] at failed
    have hpongs := answers_running s pongs answers hrunning
    obtain ⟨holder, rfl⟩ := downFailed_frame s t failed
    exact ⟨downUnanswered s.down, by simpa [pongStarted, downUnanswered] using hpongs, by simp⟩

/-! ## What a step hands to the writer -/

/-- The frame that a step hands to `write_all`. -/
def handed (label : Label) (t : Bridge) : List Bytes :=
  match label with
  | .upSend _ =>
    match t.up with
    | .writing _ frame _ => [frame]
    | _ => []
  | .downLock _ =>
    match t.down with
    | .answering frame => [frame]
    | _ => []
  | _ => []

theorem upFrame_of_free (up : Up) (free : upHolds up = false) : upFrame up = [] := by
  cases up with
  | writing splitter frame parts => cases free
  | _ => rfl

theorem downFrame_of_free (down : Down) (free : downHolds down = false) : downFrame down = [] := by
  cases down with
  | answering frame => cases free
  | _ => rfl

theorem upAfterWrite (splitter : Option MtProtoMessageSplitter) (frame : Bytes) (parts : List Bytes)
    (k : Nat) :
    upFrame (if k = frame.length then .holding splitter parts
      else .writing splitter (frame.drop k) parts) = frame.drop k ∧
    upUnsent (if k = frame.length then .holding splitter parts
      else .writing splitter (frame.drop k) parts) = parts.flatten := by
  split
  · rename_i hk
    exact ⟨by simp [upFrame, hk], rfl⟩
  · exact ⟨rfl, rfl⟩

/-- The octets on the wire and of the frame in flight grow by the frames handed over. -/
theorem wire_step (s t : Bridge) (label : Label) (locked : Locked s)
    (healthy : label.isIoError = false) (h : Move aes capacity s label t) :
    t.wire ++ upFrame t.up ++ downFrame t.down =
      s.wire ++ upFrame s.up ++ downFrame s.down ++ (handed label t).flatten := by
  cases h with
  | upRead splitter n at_point | upEof splitter at_point | upLock splitter next chunk parts at_point
  | upPanic splitter chunk why at_point | upLockClose at_point | upClose at_point =>
    simp [at_point, upFrame, handed]
  | upSend splitter part parts random at_point =>
    have hnone := downFrame_of_free s.down
      (down_free_of_up_holds s locked (by simp [at_point, upHolds]))
    simp [at_point, upFrame, handed, hnone]
  | upRefused splitter frame parts k at_point shut =>
    have hunclosed := unclosed_of_up s locked (by simp [at_point])
    rw [shut] at hunclosed
    cases hunclosed
  | upWrite splitter frame parts k at_point =>
    have hnone := downFrame_of_free s.down
      (down_free_of_up_holds s locked (by simp [at_point, upHolds]))
    dsimp only
    rw [(upAfterWrite splitter frame parts k).1]
    simp [at_point, upFrame, handed, hnone]
  | upRelease splitter at_point =>
    dsimp only
    rw [(started_eq s.down).1]
    simp [at_point, upFrame, handed]
  | upIoError t failed => cases healthy
  | downReceive incoming rest at_point =>
    dsimp only
    rw [(downAfter_pings s.received incoming).2]
    simp [at_point, downFrame, handed]
  | downEnd rest at_point | downUnreadable err rest at_point | downPanic why rest at_point
  | downShutdown at_point | downLockRefused payload random at_point free shut =>
    simp [at_point, downFrame, handed]
  | downDeliver data k at_point =>
    dsimp only
    split <;> simp [at_point, downFrame, handed]
  | downLock payload random at_point free unclosed =>
    simp [at_point, downFrame, handed]
  | downRefused frame k at_point shut =>
    have hunclosed := locked.unclosed (by simp [at_point, downHolds])
    rw [shut] at hunclosed
    cases hunclosed
  | downWriteLast frame k at_point room last =>
    have hnone := upFrame_of_free s.up (up_free_of_down_holds s locked (by simp [at_point, downHolds]))
    simp [at_point, downFrame, handed, hnone, last]
  | downWrite frame k at_point room more =>
    have hnone := upFrame_of_free s.up (up_free_of_down_holds s locked (by simp [at_point, downHolds]))
    simp [at_point, downFrame, handed, hnone]
  | downIoError t failed => cases healthy
  | serverTakes k => simp [handed]

/-- The frames started so far after the greeting. -/
structure Sent (greeting : Outgoing) (client : Bytes) (s : Bridge) (log : List Outgoing) : Prop where
  encoded : s.wire ++ upFrame s.up ++ downFrame s.down =
    greeting.encode ++ log.flatMap Outgoing.encode
  kinds : ∀ f ∈ log, (f.opcode = 0x2 ∧ f.payload ≠ [] ∨ f.opcode = 0xA) ∧
    f.payload.length ≤ isizeMax
  binary : (payloadsOf 0x2 log).flatten ++ upUnsent s.up ++ s.client = client
  pongs : ∃ lost, payloadsOf 0xA log ++ downUnanswered s.down ++ lost = pings s.received ∧
    (s.down ≠ .failed → lost = [])

theorem start_sent (random : Option MaskKey) (init : Bytes)
    (splitter : Option MtProtoMessageSplitter) (client server : Bytes) :
    Sent ⟨random, 0x2, init⟩ client (start random init splitter client server) [] where
  encoded := by
    simp [start, upFrame, downFrame, Outgoing.encode, buildFrame]
  kinds := by simp
  binary := by simp [payloadsOf, upUnsent, upChunk, upParts, start]
  pongs := ⟨[], rfl, fun _ => rfl⟩

theorem flatMap_snoc (log : List Outgoing) (f : Outgoing) :
    (log ++ [f]).flatMap Outgoing.encode = log.flatMap Outgoing.encode ++ f.encode := by
  simp

/-- A step that hands over no frame, and answers no Ping, leaves the log as it is. -/
theorem sent_quiet (greeting : Outgoing) (client : Bytes) (s t : Bridge) (label : Label)
    (log : List Outgoing) (sent : Sent greeting client s log) (none : handed label t = [])
    (wire : t.wire ++ upFrame t.up ++ downFrame t.down =
      s.wire ++ upFrame s.up ++ downFrame s.down ++ (handed label t).flatten)
    (unsent : upUnsent t.up ++ t.client = upUnsent s.up ++ s.client)
    (unanswered : pongStarted s label = [])
    (pongs : Answers t (payloadsOf 0xA log ++ pongStarted s label)) : Sent greeting client t log := by
  rw [none, List.flatten_nil, List.append_nil, sent.encoded] at wire
  rw [unanswered, List.append_nil] at pongs
  refine ⟨wire, sent.kinds, ?_, pongs⟩
  rw [List.append_assoc, unsent, ← List.append_assoc]
  exact sent.binary

/-- A step that hands over a frame adds it to the log. -/
theorem sent_snoc (greeting : Outgoing) (client : Bytes) (s t : Bridge) (label : Label)
    (log : List Outgoing) (f : Outgoing) (sent : Sent greeting client s log)
    (frame : handed label t = [f.encode])
    (wire : t.wire ++ upFrame t.up ++ downFrame t.down =
      s.wire ++ upFrame s.up ++ downFrame s.down ++ (handed label t).flatten)
    (kind : (f.opcode = 0x2 ∧ f.payload ≠ [] ∨ f.opcode = 0xA) ∧ f.payload.length ≤ isizeMax)
    (unsent : (payloadsOf 0x2 [f]).flatten ++ upUnsent t.up ++ t.client = upUnsent s.up ++ s.client)
    (answered : pongStarted s label = payloadsOf 0xA [f])
    (pongs : Answers t (payloadsOf 0xA log ++ pongStarted s label)) :
    Sent greeting client t (log ++ [f]) := by
  rw [frame, List.flatten_singleton, sent.encoded] at wire
  rw [answered, ← payloadsOf_append] at pongs
  refine ⟨?_, ?_, ?_, pongs⟩
  · rw [wire, flatMap_snoc, List.append_assoc]
  · intro g hg
    rcases List.mem_append.mp hg with hg | hg
    · exact sent.kinds g hg
    · obtain rfl := List.mem_singleton.mp hg
      exact kind
  · rw [payloadsOf_append, List.flatten_append, List.append_assoc, List.append_assoc,
      ← List.append_assoc _ (upUnsent t.up), unsent, ← List.append_assoc]
    exact sent.binary

theorem sent_step (greeting : Outgoing) (client : Bytes) (s t : Bridge) (label : Label)
    (log : List Outgoing) (locked : Locked s) (parted : Parted s) (sent : Sent greeting client s log)
    (healthy : label.isIoError = false) (h : Move aes capacity s label t) :
    ∃ log', Sent greeting client t log' := by
  have hwire := wire_step aes capacity s t label locked healthy h
  have hpongs := answers_step aes capacity s t label (payloadsOf 0xA log) sent.pongs h
  cases h with
  | upRead splitter n at_point some_read in_buffer fits =>
    have hunsent : (s.client.take n ++ []) ++ s.client.drop n = upUnsent s.up ++ s.client := by
      rw [List.append_nil, List.take_append_drop, at_point]
      rfl
    exact ⟨log, sent_quiet greeting client s _ _ log sent rfl hwire hunsent rfl hpongs⟩
  | upEof splitter at_point | upRelease splitter at_point =>
    have hunsent : [] ++ s.client = upUnsent s.up ++ s.client := by
      rw [at_point]
      rfl
    exact ⟨log, sent_quiet greeting client s _ _ log sent rfl hwire hunsent rfl hpongs⟩
  | upLockClose at_point | upClose at_point =>
    have hunsent : [] ++ s.client = upUnsent s.up ++ s.client := by
      rw [at_point]
      rfl
    exact ⟨log, sent_quiet greeting client s _ _ log sent rfl hwire hunsent rfl hpongs⟩
  | upLock splitter next chunk parts at_point free cut =>
    obtain ⟨parts', next', hcut, hflat, -⟩ :=
      partsToSend_ok aes splitter chunk (parted.chunk chunk (by simp [at_point, upChunk])).1
    rw [cut] at hcut
    obtain ⟨rfl, rfl⟩ := Prod.mk.inj (Except.ok.inj hcut)
    have hunsent : ([] ++ parts.flatten) ++ s.client = upUnsent s.up ++ s.client := by
      rw [hflat, at_point]
      simp [upUnsent, upChunk, upParts]
    exact ⟨log, sent_quiet greeting client s _ _ log sent rfl hwire hunsent rfl hpongs⟩
  | upPanic splitter chunk why at_point cut =>
    obtain ⟨parts', next', hcut, -, -⟩ :=
      partsToSend_ok aes splitter chunk (parted.chunk chunk (by simp [at_point, upChunk])).1
    rw [cut] at hcut
    cases hcut
  | upSend splitter part parts random at_point =>
    obtain ⟨hne, hle⟩ := parted.parts part (by simp [at_point, upParts])
    have hheld : part.length ≤ isizeMax := Nat.le_trans hle (by decide)
    have hunsent : [part].flatten ++ ([] ++ parts.flatten) ++ s.client =
        upUnsent s.up ++ s.client := by
      rw [at_point]
      simp [upUnsent, upChunk, upParts]
    exact ⟨log ++ [⟨random, 0x2, part⟩], sent_snoc greeting client s _ _ log ⟨random, 0x2, part⟩ sent
      rfl hwire ⟨.inl ⟨rfl, hne⟩, hheld⟩ hunsent rfl hpongs⟩
  | upRefused splitter frame parts k at_point shut =>
    have hunclosed := unclosed_of_up s locked (by simp [at_point])
    rw [shut] at hunclosed
    cases hunclosed
  | upWrite splitter frame parts k at_point =>
    refine ⟨log, sent_quiet greeting client s _ _ log sent rfl hwire ?_ rfl hpongs⟩
    dsimp only
    rw [(upAfterWrite splitter frame parts k).2, at_point]
    rfl
  | upIoError t failed => cases healthy
  | downLock payload random at_point free unclosed =>
    have hheld := parted.ping payload (by simp [at_point, downUnanswered])
    exact ⟨log ++ [⟨random, 0xA, payload⟩], sent_snoc greeting client s _ _ log ⟨random, 0xA, payload⟩
      sent rfl hwire ⟨.inr rfl, hheld⟩ rfl (by simp [pongStarted, at_point, unclosed, payloadsOf])
      hpongs⟩
  | downLockRefused payload random at_point free shut =>
    have hnone : pongStarted s (.downLock random) = [] := by simp [pongStarted, at_point, shut]
    exact ⟨log, sent_quiet greeting client s _ _ log sent rfl hwire rfl hnone hpongs⟩
  | downRefused frame k at_point shut =>
    have hunclosed := locked.unclosed (by simp [at_point, downHolds])
    rw [shut] at hunclosed
    cases hunclosed
  | downReceive | downEnd | downUnreadable | downPanic | downDeliver | downWriteLast | downWrite
  | downShutdown | serverTakes =>
    exact ⟨log, sent_quiet greeting client s _ _ log sent rfl hwire rfl rfl hpongs⟩
  | downIoError t failed => cases healthy

/-! ## Runs without an I/O error -/

/-- What holds after every step of such a run, whatever the interleaving. -/
theorem run_sent (random : Option MaskKey) (init : Bytes)
    (splitter : Option MtProtoMessageSplitter) (client server : Bytes) (labels : List Label)
    (s : Bridge) (healthy : ∀ label ∈ labels, label.isIoError = false)
    (ends : runBridge aes capacity (start random init splitter client server) labels = some s) :
    Locked s ∧ Parted s ∧ ∃ log, Sent ⟨random, 0x2, init⟩ client s log := by
  refine run_invariant (step aes capacity)
    (fun s => Locked s ∧ Parted s ∧ ∃ log, Sent ⟨random, 0x2, init⟩ client s log)
    (fun _ label => label.isIoError = false) ?_ _ s labels
    ⟨start_locked random init splitter client server,
      start_parted random init splitter client server, [],
      start_sent random init splitter client server⟩
    (along_of_forall _ _ _ labels healthy) ends
  intro s label t ⟨locked, parted, log, sent⟩ healthy hstep
  have move := move_of_step aes capacity s t label hstep
  exact ⟨locked_step aes capacity s t label locked move,
    parted_step aes capacity s t label parted move,
    sent_step aes capacity _ client s t label log locked parted sent healthy move⟩

def binaryPayloads (frames : List WsFrame) : List Bytes :=
  frames.filterMap fun frame =>
    match frame with
    | .binary payload => some payload
    | _ => none

def pongPayloads (frames : List WsFrame) : List Bytes :=
  frames.filterMap fun frame =>
    match frame with
    | .pong payload => some payload
    | _ => none

theorem payloads_expected (log : List Outgoing)
    (kinds : ∀ f ∈ log, f.opcode = 0x2 ∧ f.payload ≠ [] ∨ f.opcode = 0xA) :
    binaryPayloads (log.map Outgoing.expected) = payloadsOf 0x2 log ∧
      pongPayloads (log.map Outgoing.expected) = payloadsOf 0xA log := by
  induction log with
  | nil => exact ⟨rfl, rfl⟩
  | cons f log ih =>
    obtain ⟨hbinary, hpong⟩ := ih fun g hg => kinds g (List.mem_cons_of_mem f hg)
    obtain ⟨random, opcode, payload⟩ := f
    simp only [binaryPayloads, pongPayloads, payloadsOf] at hbinary hpong ⊢
    rcases kinds _ List.mem_cons_self with ⟨rfl, -⟩ | rfl
    · simp [Outgoing.expected, hbinary, hpong]
    · simp [Outgoing.expected, hbinary, hpong]

theorem encode_length_pos (f : Outgoing) : 0 < f.encode.length := by
  simp [Outgoing.encode, buildFrameWithOpcode]

/-- What a server makes of the whole wire: the init packet in a frame of its own,
then the client's octets, and Pongs that answer the first Pings in order. -/
def Relayed (init client wire : Bytes) (received : List WsIncoming) : Prop :=
  ∃ (frames rest : List (WsFrame × Nat)) (size : Nat),
    readAll readFrame (wire.length + 1) ⟨wire, []⟩ = .ok frames ∧
    frames = (.binary init, size) :: rest ∧
    (binaryPayloads (frames.map Prod.fst)).flatten = init ++ client ∧
    (∀ payload ∈ binaryPayloads (rest.map Prod.fst), payload ≠ []) ∧
    pongPayloads (frames.map Prod.fst) <+: pings received

theorem relayed_of_log (greeting : Outgoing) (log : List Outgoing) (client wire : Bytes)
    (received : List WsIncoming) (kind : greeting.opcode = 0x2)
    (held : greeting.payload.length ≤ isizeMax)
    (encoded : wire = (greeting :: log).flatMap Outgoing.encode)
    (kinds : ∀ f ∈ log, (f.opcode = 0x2 ∧ f.payload ≠ [] ∨ f.opcode = 0xA) ∧
      f.payload.length ≤ isizeMax)
    (binary : (payloadsOf 0x2 log).flatten = client)
    (pongs : payloadsOf 0xA log <+: pings received) :
    Relayed greeting.payload client wire received := by
  obtain ⟨hbinary, hpong⟩ := payloads_expected log fun f hf => (kinds f hf).1
  have hmap : (log.map fun f => (f.expected, f.encode.length)).map Prod.fst =
      log.map Outgoing.expected := by
    rw [List.map_map]
    rfl
  refine ⟨_, log.map fun f => (f.expected, f.encode.length), greeting.encode.length, ?_, rfl, ?_, ?_, ?_⟩
  · have hall : ∀ f ∈ greeting :: log, f.Writable := by
      intro f hf
      rcases List.mem_cons.mp hf with rfl | hf
      · exact ⟨by rw [kind]; decide, held⟩
      · obtain ⟨hkind, hheld⟩ := kinds f hf
        refine ⟨?_, hheld⟩
        rcases hkind with ⟨h, -⟩ | h <;> rw [h] <;> decide
    have hfuel := length_le_flatMap Outgoing.encode (greeting :: log) encode_length_pos
    rw [← encoded] at hfuel
    have hread := readAll_flatMap readFrame Outgoing.encode Outgoing.expected [] (greeting :: log)
      (fun f hf rest => readFrame_outgoing f (hall f hf) rest []) (readFrame_nil [])
      (wire.length + 1) (Nat.lt_succ_of_le hfuel)
    rw [← encoded] at hread
    rw [hread, List.map_cons, Outgoing.expected, kind]
    rfl
  · rw [List.map_cons, hmap, ← binary, ← hbinary]
    simp [binaryPayloads]
  · rw [hmap, hbinary]
    intro payload hp
    obtain ⟨f, hf, rfl⟩ := List.mem_map.mp hp
    obtain ⟨hf, hop⟩ := List.mem_filter.mp hf
    rcases (kinds f hf).1 with ⟨-, hne⟩ | h
    · exact hne
    · rw [h] at hop
      cases hop
  · rw [List.map_cons, hmap]
    rw [← hpong] at pongs
    simpa [pongPayloads] using pongs

/-- No call of the splitter fails, and once the task from the client has closed
the writer the wire carries the client's stream. -/
theorem bridge_relays_upstream (random : Option MaskKey) (init : Bytes)
    (splitter : Option MtProtoMessageSplitter) (client server : Bytes) (labels : List Label)
    (s : Bridge) (held : init.length ≤ isizeMax)
    (healthy : ∀ label ∈ labels, label.isIoError = false)
    (ends : runBridge aes capacity (start random init splitter client server) labels = some s) :
    s.up ≠ .panicked ∧ (s.closed = true → Relayed init client s.wire s.received) := by
  obtain ⟨locked, parted, log, sent⟩ :=
    run_sent aes capacity random init splitter client server labels s healthy ends
  constructor
  · exact parted.cut
  · intro hclosed
    have hup := locked.closed hclosed
    have hdown : downHolds s.down = false := by
      by_contra h
      have hopen := locked.unclosed (Bool.eq_true_of_not_eq_false h)
      rw [hclosed] at hopen
      cases hopen
    have hclient : s.client = [] := locked.eof (by simp [hup, upAtEof])
    obtain ⟨hencoded, hkinds, hbinary, lost, hpongs, -⟩ := sent
    rw [downFrame_of_free s.down hdown] at hencoded
    simp only [hup, upFrame, upUnsent, upChunk, upParts, hclient, List.append_nil, Option.getD_none,
      List.flatten_nil] at hencoded hbinary
    refine relayed_of_log ⟨random, 0x2, init⟩ log client s.wire s.received rfl held hencoded hkinds
      hbinary ⟨downUnanswered s.down ++ lost, ?_⟩
    rw [← List.append_assoc]
    exact hpongs

/-- The client sends two octets and closes; the server's Ping comes in between. -/
def sampleLabels : List Label :=
  [.upWrite 9, .upRelease, .downReceive, .upRead 2, .downLock none, .downWrite 3, .downWrite 4,
    .upLock, .upSend none, .upWrite 8, .upRelease, .upEof, .upLock, .upClose]

def samplePing : Bytes := [0x89, 1, 0x61]

theorem bridge_relays_upstream_sample :
    ∃ s, runBridge (fun _ _ _ => 0) 64 (start none [1, 2, 3] none [7, 8] samplePing) sampleLabels =
        some s ∧ s.closed = true ∧ s.up ≠ .panicked ∧
      (s.closed = true → Relayed [1, 2, 3] [7, 8] s.wire s.received) :=
  ⟨_, rfl, rfl, bridge_relays_upstream (fun _ _ _ => 0) 64 none [1, 2, 3] none [7, 8] samplePing
    sampleLabels _ (by decide) (by decide) rfl⟩

end TgWsProxy.Guarantees.BridgeUpstream
