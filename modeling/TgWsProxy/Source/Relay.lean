import TgWsProxy.Library.Transition
import TgWsProxy.Source.Telegram.Splitter
import TgWsProxy.Source.Ws.Frame

/-!
# WebSocket bridge

`bridge_ws_tcp` of `modules/relay.rs`: two tasks that `join!` runs in any order,
one from the client to the WebSocket and one back, which share the WebSocket
writer through a lock. A program point of a task is an `await` of the source, and
a label is one task resuming, with what the runtime decides then: how many octets
a read returns or the transport accepts, and the random generator's answer.

The transport towards the server holds `capacity` octets that the server has not
read yet. After `close` it refuses every write. The streams of the client and of
the server are given whole; a task that waits for octets is one not scheduled.
After a panic in one task neither is resumed.
-/

set_option autoImplicit false

namespace TgWsProxy.Source.Relay
open Library Library.Io Source.Telegram Source.Ws

inductive Side where
  | up | down
  deriving DecidableEq, Repr

/-- Program points of the task that reads the client. -/
inductive Up where
  | reading (splitter : Option MtProtoMessageSplitter)
  | locking (splitter : Option MtProtoMessageSplitter) (chunk : Bytes)
  | holding (splitter : Option MtProtoMessageSplitter) (parts : List Bytes)
  | writing (splitter : Option MtProtoMessageSplitter) (frame : Bytes) (parts : List Bytes)
  | lockingClose
  | closing
  | done
  | failed
  | panicked
  deriving DecidableEq, Repr

/-- Program points of the task that reads the WebSocket. -/
inductive Down where
  | unstarted
  | receiving
  | delivering (data : Bytes)
  | locking (payload : Bytes)
  | answering (frame : Bytes)
  | shuttingDown
  | done
  | failed
  | panicked
  deriving DecidableEq, Repr

structure Bridge where
  /-- What the client has still to send before it closes its side. -/
  client : Bytes
  /-- What the server has still to send before it closes its side. -/
  server : Bytes
  wire : Bytes
  /-- How much of the wire the server has read. -/
  taken : Nat
  closed : Bool
  holder : Option Side
  up : Up
  down : Down
  /-- What `recv_frame` has returned so far. -/
  received : List WsIncoming
  delivered : Bytes
  deriving DecidableEq, Repr

inductive Label where
  | upRead (n : Nat)
  | upEof
  | upLock
  | upSend (random : Option MaskKey)
  | upWrite (k : Nat)
  | upRelease
  | upClose
  | upIoError
  | downReceive
  | downDeliver (k : Nat)
  | downLock (random : Option MaskKey)
  | downWrite (k : Nat)
  | downShutdown
  | downIoError
  | serverTakes (k : Nat)
  deriving DecidableEq, Repr

/-- The two labels that let an operation of the system fail. -/
def Label.isIoError (label : Label) : Bool :=
  match label with
  | .upIoError | .downIoError => true
  | _ => false

/-- `vec![0u8; 32 * 1024]`. -/
def bufferSize : Nat := 32 * 1024

/-- The bridge sends the init packet under the lock before it starts the tasks. -/
def start (random : Option MaskKey) (init : Bytes) (splitter : Option MtProtoMessageSplitter)
    (client server : Bytes) : Bridge where
  client := client
  server := server
  wire := []
  taken := 0
  closed := false
  holder := some .up
  up := .writing splitter (buildFrame random init) []
  down := .unstarted
  received := []
  delivered := []

variable (aes : Aes256) (capacity : Nat)

/-- The parts of a chunk, and the splitter for the next one. -/
def partsToSend (splitter : Option MtProtoMessageSplitter) (chunk : Bytes) :
    Checked (List Bytes × Option MtProtoMessageSplitter) :=
  match splitter with
  | none => .ok ([chunk], none)
  | some s => do
    let (parts, next) ← s.split aes chunk
    return (parts, some next)

/-- The transport takes the next `k` octets of a frame if it has room. -/
def Bridge.accepts (s : Bridge) (frame : Bytes) (k : Nat) : Prop :=
  0 < k ∧ k ≤ frame.length ∧ s.wire.length + k ≤ s.taken + capacity

instance (s : Bridge) (frame : Bytes) (k : Nat) : Decidable (s.accepts capacity frame k) :=
  inferInstanceAs (Decidable (_ ∧ _ ∧ _))

def upLocked (s : Bridge) : Option Bridge :=
  match s.up with
  | .locking splitter chunk =>
    match partsToSend aes splitter chunk with
    | .ok (parts, next) => some { s with holder := some .up, up := .holding next parts }
    | .error _ => some { s with up := .panicked }
  | .lockingClose => some { s with holder := some .up, up := .closing }
  | _ => none

/-- `write_all` of the task's frame goes on; a closed writer refuses it. -/
def upWritten (s : Bridge) (k : Nat) : Option Bridge :=
  match s.up with
  | .writing splitter frame parts =>
    if s.closed then some { s with holder := none, up := .failed }
    else if s.accepts capacity frame k then
      let next := if k = frame.length then Up.holding splitter parts
        else .writing splitter (frame.drop k) parts
      some { s with wire := s.wire ++ frame.take k, up := next }
    else none
  | _ => none

/-- The guard is dropped; the first time this ends the sending of the init packet. -/
def upReleased (s : Bridge) : Option Bridge :=
  match s.up with
  | .holding splitter [] =>
    let down := if s.down = .unstarted then Down.receiving else s.down
    some { s with holder := none, up := .reading splitter, down := down }
  | _ => none

def upFailed (s : Bridge) : Option Bridge :=
  match s.up with
  | .reading _ => some { s with up := .failed }
  | .writing _ _ _ | .closing => some { s with holder := none, up := .failed }
  | _ => none

/-- The branch that a frame takes. -/
def Down.after (incoming : WsIncoming) : Down :=
  match incoming with
  | .binary data => .delivering data
  | .ping payload => .locking payload
  | .close _ => .shuttingDown

def downReceived (s : Bridge) : Option Bridge :=
  match s.down with
  | .receiving =>
    match recvFrame.run ⟨s.server, []⟩ with
    | (.ok (some incoming), rest) =>
      some { s with
        server := rest.input
        received := s.received ++ [incoming]
        down := .after incoming }
    | (.ok none, rest) => some { s with server := rest.input, down := .shuttingDown }
    | (.error (.error _), rest) => some { s with server := rest.input, down := .failed }
    | (.error (.panic _), _) => some { s with down := .panicked }
  | _ => none

def downDelivered (s : Bridge) (k : Nat) : Option Bridge :=
  match s.down with
  | .delivering data =>
    if k ≤ data.length ∧ (0 < k ∨ data = []) then
      let next := if k = data.length then Down.receiving else .delivering (data.drop k)
      some { s with delivered := s.delivered ++ data.take k, down := next }
    else none
  | _ => none

/-- The lock is granted and the Pong's `write_all` begins; on a closed writer it
fails, and the `?` after it ends the task. -/
def downLocked (s : Bridge) (random : Option MaskKey) : Option Bridge :=
  match s.down with
  | .locking payload =>
    if s.closed then some { s with down := .failed }
    else
      let frame := buildFrameWithOpcode random 0xA payload
      some { s with holder := some .down, down := .answering frame }
  | _ => none

def downWritten (s : Bridge) (k : Nat) : Option Bridge :=
  match s.down with
  | .answering frame =>
    if s.closed then some { s with holder := none, down := .failed }
    else if s.accepts capacity frame k then
      if k = frame.length then
        some { s with wire := s.wire ++ frame.take k, holder := none, down := .receiving }
      else some { s with wire := s.wire ++ frame.take k, down := .answering (frame.drop k) }
    else none
  | _ => none

def downFailed (s : Bridge) : Option Bridge :=
  match s.down with
  | .receiving | .delivering _ | .shuttingDown => some { s with down := .failed }
  | .answering _ => some { s with holder := none, down := .failed }
  | _ => none

def resume (s : Bridge) (label : Label) : Option Bridge :=
  match label with
  | .upRead n =>
    match s.up with
    | .reading splitter =>
      if 0 < n ∧ n ≤ bufferSize ∧ n ≤ s.client.length then
        some { s with client := s.client.drop n, up := .locking splitter (s.client.take n) }
      else none
    | _ => none
  | .upEof =>
    match s.up with
    | .reading _ => if s.client = [] then some { s with up := .lockingClose } else none
    | _ => none
  | .upLock => if s.holder = none then upLocked aes s else none
  | .upSend random =>
    match s.up with
    | .holding splitter (part :: parts) =>
      some { s with up := .writing splitter (buildFrame random part) parts }
    | _ => none
  | .upWrite k => upWritten capacity s k
  | .upRelease => upReleased s
  | .upClose =>
    match s.up with
    | .closing => some { s with closed := true, holder := none, up := .done }
    | _ => none
  | .upIoError => upFailed s
  | .downReceive => downReceived s
  | .downDeliver k => downDelivered s k
  | .downLock random => if s.holder = none then downLocked s random else none
  | .downWrite k => downWritten capacity s k
  | .downShutdown =>
    match s.down with
    | .shuttingDown => some { s with down := .done }
    | _ => none
  | .downIoError => downFailed s
  | .serverTakes k =>
    if 0 < k ∧ s.taken + k ≤ s.wire.length then some { s with taken := s.taken + k } else none

/-- A panic unwinds through the `join!` of the two tasks. -/
def step (s : Bridge) (label : Label) : Option Bridge :=
  if s.up = .panicked ∨ s.down = .panicked then none else resume aes capacity s label

abbrev runBridge (s : Bridge) (labels : List Label) : Option Bridge :=
  Transition.run (step aes capacity) s labels

/-- Everything a label can do, with the state it needs. -/
inductive Move (s : Bridge) : Label → Bridge → Prop
  | upRead (splitter : Option MtProtoMessageSplitter) (n : Nat) (at_point : s.up = .reading splitter)
      (some_read : 0 < n) (in_buffer : n ≤ bufferSize) (sent : n ≤ s.client.length) :
      Move s (.upRead n)
        { s with client := s.client.drop n, up := .locking splitter (s.client.take n) }
  | upEof (splitter : Option MtProtoMessageSplitter) (at_point : s.up = .reading splitter)
      (all_read : s.client = []) : Move s .upEof { s with up := .lockingClose }
  | upLock (splitter next : Option MtProtoMessageSplitter) (chunk : Bytes) (parts : List Bytes)
      (at_point : s.up = .locking splitter chunk) (free : s.holder = none)
      (cut : partsToSend aes splitter chunk = .ok (parts, next)) :
      Move s .upLock { s with holder := some .up, up := .holding next parts }
  | upPanic (splitter : Option MtProtoMessageSplitter) (chunk : Bytes) (why : Panic)
      (at_point : s.up = .locking splitter chunk) (cut : partsToSend aes splitter chunk = .error why) :
      Move s .upLock { s with up := .panicked }
  | upLockClose (at_point : s.up = .lockingClose) (free : s.holder = none) :
      Move s .upLock { s with holder := some .up, up := .closing }
  | upSend (splitter : Option MtProtoMessageSplitter) (part : Bytes) (parts : List Bytes)
      (random : Option MaskKey) (at_point : s.up = .holding splitter (part :: parts)) :
      Move s (.upSend random) { s with up := .writing splitter (buildFrame random part) parts }
  | upRefused (splitter : Option MtProtoMessageSplitter) (frame : Bytes) (parts : List Bytes) (k : Nat)
      (at_point : s.up = .writing splitter frame parts) (shut : s.closed = true) :
      Move s (.upWrite k) { s with holder := none, up := .failed }
  | upWrite (splitter : Option MtProtoMessageSplitter) (frame : Bytes) (parts : List Bytes) (k : Nat)
      (at_point : s.up = .writing splitter frame parts) (room : s.accepts capacity frame k) :
      Move s (.upWrite k)
        { s with
          wire := s.wire ++ frame.take k
          up := if k = frame.length then .holding splitter parts
            else .writing splitter (frame.drop k) parts }
  | upRelease (splitter : Option MtProtoMessageSplitter) (at_point : s.up = .holding splitter []) :
      Move s .upRelease
        { s with
          holder := none
          up := .reading splitter
          down := if s.down = .unstarted then .receiving else s.down }
  | upClose (at_point : s.up = .closing) :
      Move s .upClose { s with closed := true, holder := none, up := .done }
  | upIoError (t : Bridge) (failed : upFailed s = some t) : Move s .upIoError t
  | downReceive (incoming : WsIncoming) (rest : Duplex) (at_point : s.down = .receiving)
      (frame : recvFrame.run ⟨s.server, []⟩ = (.ok (some incoming), rest)) :
      Move s .downReceive
        { s with
          server := rest.input
          received := s.received ++ [incoming]
          down := .after incoming }
  | downEnd (rest : Duplex) (at_point : s.down = .receiving)
      (frame : recvFrame.run ⟨s.server, []⟩ = (.ok none, rest)) :
      Move s .downReceive { s with server := rest.input, down := .shuttingDown }
  | downUnreadable (err : WsError) (rest : Duplex) (at_point : s.down = .receiving)
      (frame : recvFrame.run ⟨s.server, []⟩ = (.error (.error err), rest)) :
      Move s .downReceive { s with server := rest.input, down := .failed }
  | downPanic (why : Panic) (rest : Duplex) (at_point : s.down = .receiving)
      (frame : recvFrame.run ⟨s.server, []⟩ = (.error (.panic why), rest)) :
      Move s .downReceive { s with down := .panicked }
  | downDeliver (data : Bytes) (k : Nat) (at_point : s.down = .delivering data)
      (part : k ≤ data.length ∧ (0 < k ∨ data = [])) :
      Move s (.downDeliver k)
        { s with
          delivered := s.delivered ++ data.take k
          down := if k = data.length then .receiving else .delivering (data.drop k) }
  | downLock (payload : Bytes) (random : Option MaskKey) (at_point : s.down = .locking payload)
      (free : s.holder = none) (unclosed : s.closed = false) :
      Move s (.downLock random)
        { s with
          holder := some .down
          down := .answering (buildFrameWithOpcode random 0xA payload) }
  | downLockRefused (payload : Bytes) (random : Option MaskKey) (at_point : s.down = .locking payload)
      (free : s.holder = none) (shut : s.closed = true) :
      Move s (.downLock random) { s with down := .failed }
  | downRefused (frame : Bytes) (k : Nat) (at_point : s.down = .answering frame)
      (shut : s.closed = true) : Move s (.downWrite k) { s with holder := none, down := .failed }
  | downWriteLast (frame : Bytes) (k : Nat) (at_point : s.down = .answering frame)
      (room : s.accepts capacity frame k) (last : k = frame.length) :
      Move s (.downWrite k)
        { s with wire := s.wire ++ frame.take k, holder := none, down := .receiving }
  | downWrite (frame : Bytes) (k : Nat) (at_point : s.down = .answering frame)
      (room : s.accepts capacity frame k) (more : k ≠ frame.length) :
      Move s (.downWrite k) { s with wire := s.wire ++ frame.take k, down := .answering (frame.drop k) }
  | downShutdown (at_point : s.down = .shuttingDown) : Move s .downShutdown { s with down := .done }
  | downIoError (t : Bridge) (failed : downFailed s = some t) : Move s .downIoError t
  | serverTakes (k : Nat) (some_taken : 0 < k) (written : s.taken + k ≤ s.wire.length) :
      Move s (.serverTakes k) { s with taken := s.taken + k }

/-- A failure of the task from the client ends it and touches at most the lock besides. -/
theorem upFailed_frame (s t : Bridge) (h : upFailed s = some t) :
    ∃ holder, t = { s with holder := holder, up := .failed } := by
  unfold upFailed at h
  split at h
  · exact ⟨s.holder, (Option.some.inj h).symm⟩
  · exact ⟨none, (Option.some.inj h).symm⟩
  · exact ⟨none, (Option.some.inj h).symm⟩
  · cases h

theorem downFailed_frame (s t : Bridge) (h : downFailed s = some t) :
    ∃ holder, t = { s with holder := holder, down := .failed } := by
  unfold downFailed at h
  split at h
  · exact ⟨s.holder, (Option.some.inj h).symm⟩
  · exact ⟨s.holder, (Option.some.inj h).symm⟩
  · exact ⟨s.holder, (Option.some.inj h).symm⟩
  · exact ⟨none, (Option.some.inj h).symm⟩
  · cases h

theorem move_upLock (s t : Bridge) (h : resume aes capacity s .upLock = some t) :
    Move aes capacity s .upLock t := by
  unfold resume at h
  dsimp only at h
  split at h
  · rename_i free
    unfold upLocked at h
    split at h
    · rename_i splitter chunk at_point
      split at h
      · rename_i parts next cut
        obtain rfl := Option.some.inj h
        exact .upLock splitter next chunk parts at_point free cut
      · rename_i why cut
        obtain rfl := Option.some.inj h
        exact .upPanic splitter chunk why at_point cut
    · rename_i at_point
      obtain rfl := Option.some.inj h
      exact .upLockClose at_point free
    · cases h
  · cases h

theorem move_upWrite (s t : Bridge) (k : Nat) (h : resume aes capacity s (.upWrite k) = some t) :
    Move aes capacity s (.upWrite k) t := by
  unfold resume upWritten at h
  dsimp only at h
  split at h
  · rename_i splitter frame parts at_point
    split at h
    · rename_i shut
      obtain rfl := Option.some.inj h
      exact .upRefused splitter frame parts k at_point shut
    · split at h
      · rename_i room
        obtain rfl := Option.some.inj h
        exact .upWrite splitter frame parts k at_point room
      · cases h
  · cases h

theorem move_downReceive (s t : Bridge) (h : resume aes capacity s .downReceive = some t) :
    Move aes capacity s .downReceive t := by
  unfold resume downReceived at h
  dsimp only at h
  split at h
  · rename_i at_point
    split at h
    · rename_i incoming rest frame
      obtain rfl := Option.some.inj h
      exact .downReceive incoming rest at_point frame
    · rename_i rest frame
      obtain rfl := Option.some.inj h
      exact .downEnd rest at_point frame
    · rename_i err rest frame
      obtain rfl := Option.some.inj h
      exact .downUnreadable err rest at_point frame
    · rename_i why rest frame
      obtain rfl := Option.some.inj h
      exact .downPanic why rest at_point frame
  · cases h

theorem move_downLock (s t : Bridge) (random : Option MaskKey)
    (h : resume aes capacity s (.downLock random) = some t) :
    Move aes capacity s (.downLock random) t := by
  unfold resume downLocked at h
  dsimp only at h
  split at h
  · rename_i free
    split at h
    · rename_i payload at_point
      split at h
      · rename_i shut
        obtain rfl := Option.some.inj h
        exact .downLockRefused payload random at_point free shut
      · rename_i unclosed
        obtain rfl := Option.some.inj h
        exact .downLock payload random at_point free (Bool.eq_false_iff.mpr unclosed)
    · cases h
  · cases h

theorem move_downWrite (s t : Bridge) (k : Nat) (h : resume aes capacity s (.downWrite k) = some t) :
    Move aes capacity s (.downWrite k) t := by
  unfold resume downWritten at h
  dsimp only at h
  split at h
  · rename_i frame at_point
    split at h
    · rename_i shut
      obtain rfl := Option.some.inj h
      exact .downRefused frame k at_point shut
    · split at h
      · rename_i room
        split at h
        · rename_i last
          obtain rfl := Option.some.inj h
          exact .downWriteLast frame k at_point room last
        · rename_i more
          obtain rfl := Option.some.inj h
          exact .downWrite frame k at_point room more
      · cases h
  · cases h

theorem move_of_resume (s t : Bridge) (label : Label) (h : resume aes capacity s label = some t) :
    Move aes capacity s label t := by
  cases label with
  | upRead n =>
    unfold resume at h
    dsimp only at h
    split at h
    · rename_i splitter at_point
      split at h
      · rename_i fits
        obtain rfl := Option.some.inj h
        exact .upRead splitter n at_point fits.1 fits.2.1 fits.2.2
      · cases h
    · cases h
  | upEof =>
    unfold resume at h
    dsimp only at h
    split at h
    · rename_i splitter at_point
      split at h
      · rename_i all_read
        obtain rfl := Option.some.inj h
        exact .upEof splitter at_point all_read
      · cases h
    · cases h
  | upLock => exact move_upLock aes capacity s t h
  | upSend random =>
    unfold resume at h
    dsimp only at h
    split at h
    · rename_i splitter part parts at_point
      obtain rfl := Option.some.inj h
      exact .upSend splitter part parts random at_point
    · cases h
  | upWrite k => exact move_upWrite aes capacity s t k h
  | upRelease =>
    unfold resume upReleased at h
    dsimp only at h
    split at h
    · rename_i splitter at_point
      obtain rfl := Option.some.inj h
      exact .upRelease splitter at_point
    · cases h
  | upClose =>
    unfold resume at h
    dsimp only at h
    split at h
    · rename_i at_point
      obtain rfl := Option.some.inj h
      exact .upClose at_point
    · cases h
  | upIoError => exact .upIoError t h
  | downReceive => exact move_downReceive aes capacity s t h
  | downDeliver k =>
    unfold resume downDelivered at h
    dsimp only at h
    split at h
    · rename_i data at_point
      split at h
      · rename_i part
        obtain rfl := Option.some.inj h
        exact .downDeliver data k at_point part
      · cases h
    · cases h
  | downLock random => exact move_downLock aes capacity s t random h
  | downWrite k => exact move_downWrite aes capacity s t k h
  | downShutdown =>
    unfold resume at h
    dsimp only at h
    split at h
    · rename_i at_point
      obtain rfl := Option.some.inj h
      exact .downShutdown at_point
    · cases h
  | downIoError => exact .downIoError t h
  | serverTakes k =>
    unfold resume at h
    dsimp only at h
    split at h
    · rename_i fits
      obtain rfl := Option.some.inj h
      exact .serverTakes k fits.1 fits.2
    · cases h

theorem move_of_step (s t : Bridge) (label : Label) (h : step aes capacity s label = some t) :
    Move aes capacity s label t := by
  unfold step at h
  split at h
  · cases h
  · exact move_of_resume aes capacity s t label h

/-- A chunk that was read is cut into non-empty parts and nothing of it is lost. -/
theorem partsToSend_ok (splitter : Option MtProtoMessageSplitter) (chunk : Bytes) (h : chunk ≠ []) :
    ∃ parts next, partsToSend aes splitter chunk = .ok (parts, next) ∧
      parts.flatten = chunk ∧ ∀ part ∈ parts, part ≠ [] := by
  cases splitter with
  | none => exact ⟨[chunk], none, rfl, by simp, by simpa using h⟩
  | some s =>
    have hsplit := s.split_eq aes chunk h
    set plain := mask (aes s.cipher.key s.cipher.iv) s.cipher.pos chunk with hplain
    have hlen : plain.length = chunk.length := mask_length _ _ _
    refine ⟨MtProtoMessageSplitter.partsOf plain chunk,
      some ⟨{ s.cipher with pos := s.cipher.pos + chunk.length }⟩, ?_,
      MtProtoMessageSplitter.partsOf_flatten plain chunk,
      MtProtoMessageSplitter.partsOf_ne_nil plain chunk hlen h⟩
    rw [partsToSend, hsplit]
    rfl

end TgWsProxy.Source.Relay
