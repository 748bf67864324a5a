import TgWsProxy.Source.Relay

/-!
# The writer lock of the bridge

Both tasks of the bridge write through one lock. A task that holds it is the
recorded holder, so the other one is not in the middle of a frame, and the writer
is closed only by the task from the client, as its last act and after the
client's end of stream (`Locked`). No step breaks this, failures included.
-/

set_option autoImplicit false

namespace TgWsProxy.Guarantees.BridgeLock
open Library Library.Transition Source.Telegram Source.Ws Source.Relay

def upHolds (up : Up) : Bool :=
  match up with
  | .holding _ _ | .writing _ _ _ | .closing => true
  | _ => false

/-- The client's end of stream has been read. -/
def upAtEof (up : Up) : Bool :=
  match up with
  | .lockingClose | .closing | .done => true
  | _ => false

def downHolds (down : Down) : Bool :=
  match down with
  | .answering _ => true
  | _ => false

structure Locked (s : Bridge) : Prop where
  up : upHolds s.up = true → s.holder = some .up
  down : downHolds s.down = true → s.holder = some .down
  closed : s.closed = true → s.up = .done
  unclosed : downHolds s.down = true → s.closed = false
  eof : upAtEof s.up = true → s.client = []

variable (aes : Aes256) (capacity : Nat)

theorem start_locked (random : Option MaskKey) (init : Bytes)
    (splitter : Option MtProtoMessageSplitter) (client server : Bytes) :
    Locked (start random init splitter client server) where
  up _ := rfl
  down h := by cases h
  closed h := by cases h
  unclosed h := by cases h
  eof h := by cases h

theorem down_free_of_up_holds (s : Bridge) (locked : Locked s) (h : upHolds s.up = true) :
    downHolds s.down = false := by
  by_contra hd
  have hup := locked.up h
  have hdown := locked.down (Bool.eq_true_of_not_eq_false hd)
  rw [hup] at hdown
  cases hdown

theorem up_free_of_down_holds (s : Bridge) (locked : Locked s) (h : downHolds s.down = true) :
    upHolds s.up = false := by
  by_contra hu
  have hdown := locked.down h
  rw [locked.up (Bool.eq_true_of_not_eq_false hu)] at hdown
  cases hdown

theorem unclosed_of_up (s : Bridge) (locked : Locked s) (h : s.up ≠ .done) : s.closed = false := by
  by_contra hc
  exact h (locked.closed (Bool.eq_true_of_not_eq_false hc))

theorem downAfter_free (incoming : WsIncoming) : downHolds (.after incoming) = false := by
  cases incoming <;> rfl

/-- A lock that the other task holds cannot be granted. -/
theorem free_of_holder_none (s : Bridge) (locked : Locked s) (free : s.holder = none) :
    upHolds s.up = false ∧ downHolds s.down = false := by
  constructor
  · by_contra h
    have hholder := locked.up (Bool.eq_true_of_not_eq_false h)
    rw [free] at hholder
    cases hholder
  · by_contra h
    have hholder := locked.down (Bool.eq_true_of_not_eq_false h)
    rw [free] at hholder
    cases hholder

/-- A task that fails lets go of the lock, if it held it. -/
theorem up_fails_locked (s : Bridge) (locked : Locked s) (holds : upHolds s.up = true) :
    Locked { s with holder := none, up := .failed } := by
  have hnot := down_free_of_up_holds s locked holds
  have hunclosed : s.closed = false := unclosed_of_up s locked fun hdone => by
    rw [hdone] at holds
    cases holds
  exact { locked with
    up := by simp [upHolds]
    down := by simp [hnot]
    closed := by simp [hunclosed]
    eof := by simp [upAtEof] }

theorem down_fails_locked (s : Bridge) (locked : Locked s) :
    Locked { s with down := .failed } :=
  { locked with
    down := by simp [downHolds]
    unclosed := by simp [downHolds] }

theorem upFailed_locked (s t : Bridge) (locked : Locked s) (h : upFailed s = some t) :
    Locked t := by
  unfold upFailed at h
  split at h
  · rename_i splitter at_point
    obtain rfl := Option.some.inj h
    have hunclosed : s.closed = false := unclosed_of_up s locked (by simp [at_point])
    exact { locked with
      up := by simp [upHolds]
      closed := by simp [hunclosed]
      eof := by simp [upAtEof] }
  · rename_i splitter frame parts at_point
    obtain rfl := Option.some.inj h
    exact up_fails_locked s locked (by simp [at_point, upHolds])
  · rename_i at_point
    obtain rfl := Option.some.inj h
    exact up_fails_locked s locked (by simp [at_point, upHolds])
  · cases h

theorem downFailed_locked (s t : Bridge) (locked : Locked s) (h : downFailed s = some t) :
    Locked t := by
  unfold downFailed at h
  split at h
  · obtain rfl := Option.some.inj h
    exact down_fails_locked s locked
  · obtain rfl := Option.some.inj h
    exact down_fails_locked s locked
  · obtain rfl := Option.some.inj h
    exact down_fails_locked s locked
  · rename_i frame at_point
    obtain rfl := Option.some.inj h
    have hup := up_free_of_down_holds s locked (by simp [at_point, downHolds])
    exact { locked with
      up := by simp [hup]
      down := by simp [downHolds]
      unclosed := by simp [downHolds] }
  · cases h

/-- While a task holds the lock the writer is open and the other does not hold it. -/
theorem locked_step (s t : Bridge) (label : Label) (locked : Locked s)
    (h : Move aes capacity s label t) : Locked t := by
  have hopen := unclosed_of_up s locked
  have hfree := free_of_holder_none s locked
  have hdown := down_free_of_up_holds s locked
  cases h with
  | upRead splitter n at_point =>
    have hunclosed : s.closed = false := hopen (by simp [at_point])
    exact { locked with
      up := by simp [upHolds]
      closed := by simp [hunclosed]
      eof := by simp [upAtEof] }
  | upEof splitter at_point all_read =>
    have hunclosed : s.closed = false := hopen (by simp [at_point])
    exact { locked with
      up := by simp [upHolds]
      closed := by simp [hunclosed]
      eof := fun _ => all_read }
  | upLock splitter next chunk parts at_point free =>
    have hunclosed : s.closed = false := hopen (by simp [at_point])
    exact {
      up := fun _ => rfl
      down := by simp [(hfree free).2]
      closed := by simp [hunclosed]
      unclosed := fun _ => hunclosed
      eof := by simp [upAtEof] }
  | upPanic splitter chunk why at_point =>
    have hunclosed : s.closed = false := hopen (by simp [at_point])
    exact { locked with
      up := by simp [upHolds]
      closed := by simp [hunclosed]
      eof := by simp [upAtEof] }
  | upLockClose at_point free =>
    have hunclosed : s.closed = false := hopen (by simp [at_point])
    exact {
      up := fun _ => rfl
      down := by simp [(hfree free).2]
      closed := by simp [hunclosed]
      unclosed := fun _ => hunclosed
      eof := fun _ => locked.eof (by simp [at_point, upAtEof]) }
  | upSend splitter part parts random at_point =>
    have hunclosed : s.closed = false := hopen (by simp [at_point])
    exact { locked with
      up := fun _ => locked.up (by simp [at_point, upHolds])
      closed := by simp [hunclosed]
      eof := by simp [upAtEof] }
  | upRefused splitter frame parts k at_point shut =>
    have hunclosed : s.closed = false := hopen (by simp [at_point])
    rw [shut] at hunclosed
    cases hunclosed
  | upWrite splitter frame parts k at_point =>
    have hunclosed : s.closed = false := hopen (by simp [at_point])
    exact { locked with
      up := fun _ => locked.up (by simp [at_point, upHolds])
      closed := by simp [hunclosed]
      eof := by
        dsimp only
        split <;> simp [upAtEof] }
  | upRelease splitter at_point =>
    have hunclosed : s.closed = false := hopen (by simp [at_point])
    have hnot : downHolds (if s.down = .unstarted then .receiving else s.down) = false := by
      split
      · rfl
      · exact hdown (by simp [at_point, upHolds])
    exact {
      up := by simp [upHolds]
      down := by simp [hnot]
      closed := by simp [hunclosed]
      unclosed := fun _ => hunclosed
      eof := by simp [upAtEof] }
  | upClose at_point =>
    have hnot : downHolds s.down = false := hdown (by simp [at_point, upHolds])
    exact {
      up := by simp [upHolds]
      down := by simp [hnot]
      closed := fun _ => rfl
      unclosed := by simp [hnot]
      eof := fun _ => locked.eof (by simp [at_point, upAtEof]) }
  | upIoError t failed => exact upFailed_locked s t locked failed
  | downReceive incoming rest at_point =>
    exact { locked with
      down := by simp [downAfter_free]
      unclosed := by simp [downAfter_free] }
  | downLockRefused => exact down_fails_locked s locked
  | downEnd | downUnreadable | downPanic | downShutdown =>
    exact { locked with
      down := by simp [downHolds]
      unclosed := by simp [downHolds] }
  | downDeliver data k at_point =>
    have hnot : downHolds (if k = data.length then .receiving else .delivering (data.drop k)) = false := by
      split <;> rfl
    exact { locked with
      down := by simp [hnot]
      unclosed := by simp [hnot] }
  | downLock payload random at_point free unclosed =>
    exact { locked with
      up := by simp [(hfree free).1]
      down := fun _ => rfl
      unclosed := fun _ => unclosed }
  | downRefused frame k at_point shut =>
    have hunclosed := locked.unclosed (by simp [at_point, downHolds])
    rw [shut] at hunclosed
    cases hunclosed
  | downWriteLast frame k at_point =>
    have hup := up_free_of_down_holds s locked (by simp [at_point, downHolds])
    exact { locked with
      up := by simp [hup]
      down := by simp [downHolds]
      unclosed := by simp [downHolds] }
  | downWrite frame k at_point =>
    exact { locked with
      down := fun _ => locked.down (by simp [at_point, downHolds])
      unclosed := fun _ => locked.unclosed (by simp [at_point, downHolds]) }
  | downIoError t failed => exact downFailed_locked s t locked failed
  | serverTakes k => exact { locked with }

theorem run_locked (random : Option MaskKey) (init : Bytes)
    (splitter : Option MtProtoMessageSplitter) (client server : Bytes) (labels : List Label)
    (s : Bridge)
    (ends : runBridge aes capacity (start random init splitter client server) labels = some s) :
    Locked s :=
  run_invariant_of_step (step aes capacity) Locked
    (fun s label t locked hstep =>
      locked_step aes capacity s t label locked (move_of_step aes capacity s t label hstep))
    _ s labels (start_locked random init splitter client server) ends

end TgWsProxy.Guarantees.BridgeLock
