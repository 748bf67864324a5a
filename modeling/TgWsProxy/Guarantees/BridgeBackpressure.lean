import TgWsProxy.Guarantees.BridgeDownstream

/-!
# Back-pressure of the bridge

While the server reads nothing the task from the client can be held up inside `send`,
and it keeps the writer lock all that time. The task from the WebSocket needs the lock
for each Pong, so it delivers what stands before the first unanswered Ping and nothing
behind it (`downstream_goes_on_iff`). From that Ping on both tasks wait for the server
to read (`both_wait`).
-/

set_option autoImplicit false

namespace TgWsProxy.Guarantees.BridgeBackpressure
open Library Library.Transition Source.Telegram Source.Ws Source.Relay BridgeLock BridgeDownstream

variable (aes : Aes256) (capacity : Nat)

/-- The tasks run, and the one from the client is inside `send` with the transport full. -/
structure Backpressured (s : Bridge) : Prop where
  started : s.down ≠ .unstarted
  sending : ∃ splitter frame parts, s.up = .writing splitter frame parts
  full : s.taken + capacity ≤ s.wire.length

/-- The labels of the task from the WebSocket that do not let an operation fail. -/
def isDown (label : Label) : Bool :=
  match label with
  | .downReceive | .downDeliver _ | .downLock _ | .downWrite _ | .downShutdown => true
  | _ => false

/-- With the other task and the server at rest, the data of these frames is delivered. A
task that has ended has nothing left to deliver. -/
def Deliverable (s : Bridge) (frames : List WireFrame) : Prop :=
  ∃ labels t, (∀ label ∈ labels, isDown label = true) ∧
    runBridge aes capacity s labels = some t ∧ t.delivered = s.delivered ++ toDeliver s.down frames

/-- The data behind the first Ping. -/
def dataBehindPing : List WireFrame → Bytes
  | [] => []
  | f :: frames =>
    match f.frame with
    | .ping _ => expectedData frames
    | .binary _ | .pong _ => dataBehindPing frames
    | .close _ | .other _ => []

/-- The data behind the first Ping that is not answered, the one in hand included. -/
def heldBack (down : Down) (frames : List WireFrame) : Bytes :=
  match down with
  | .locking _ => expectedData frames
  | .unstarted | .receiving | .delivering _ | .answering _ => dataBehindPing frames
  | .shuttingDown | .done | .failed | .panicked => []

theorem dataBehindPing_suffix (frames : List WireFrame) :
    dataBehindPing frames <:+ expectedData frames := by
  induction frames with
  | nil => exact List.suffix_refl _
  | cons f frames ih =>
    rw [dataBehindPing, expectedData]
    cases f.frame with
    | binary payload => exact ih.trans (List.suffix_append payload _)
    | ping payload => exact List.suffix_refl _
    | pong payload => exact ih
    | close info | other payload => exact List.suffix_refl _

theorem heldBack_suffix (down : Down) (frames : List WireFrame) :
    heldBack down frames <:+ toDeliver down frames := by
  have hframes := dataBehindPing_suffix frames
  cases down with
  | delivering data => exact hframes.trans (List.suffix_append data _)
  | unstarted | receiving | answering frame => exact hframes
  | locking payload => exact List.suffix_refl _
  | shuttingDown | done | failed | panicked => exact List.suffix_refl _

/-- Receiving does not change what is held back. -/
theorem dataBehindPing_nextIncoming (frames : List WireFrame) :
    dataBehindPing frames =
      match (nextIncoming frames).1 with
      | some incoming => heldBack (.after incoming) (nextIncoming frames).2
      | none => [] := by
  induction frames with
  | nil => rfl
  | cons f frames ih =>
    rw [dataBehindPing, nextIncoming]
    cases f.frame with
    | pong payload => exact ih
    | binary payload | ping payload | close info | other payload => rfl

/-! ## While the lock is held -/

theorem holds_of_sending (s : Bridge) (locked : Locked s) (pressed : Backpressured capacity s) :
    s.holder = some .up ∧ downHolds s.down = false := by
  obtain ⟨splitter, frame, parts, hup⟩ := pressed.sending
  have hholds : upHolds s.up = true := by rw [hup]; rfl
  exact ⟨locked.up hholds, down_free_of_up_holds s locked hholds⟩

/-- With a Ping in hand nothing goes on but the server, unless an operation fails. -/
theorem both_wait (s t : Bridge) (locked : Locked s) (pressed : Backpressured capacity s)
    (payload : Bytes) (ping : s.down = .locking payload) (label : Label)
    (h : step aes capacity s label = some t) :
    label.isIoError = true ∨ ∃ k, label = .serverTakes k := by
  have hholder := (holds_of_sending capacity s locked pressed).1
  have hfull := pressed.full
  obtain ⟨splitter, frame, parts, hup⟩ := pressed.sending
  have hopen := unclosed_of_up s locked (by simp [hup])
  have move := move_of_step aes capacity s t label h
  cases move with
  | upIoError | downIoError => exact .inl rfl
  | serverTakes k => exact .inr ⟨k, rfl⟩
  | upWrite splitter' frame' parts' k at_point room =>
    obtain ⟨hpos, -, hroom⟩ := room
    omega
  | upRefused splitter' frame' parts' k at_point shut =>
    rw [hopen] at shut
    cases shut
  | upLock splitter' next chunk parts' at_point free | upLockClose at_point free
  | downLock payload' random at_point free | downLockRefused payload' random at_point free =>
    rw [hholder] at free
    cases free
  | upRead splitter' n at_point | upEof splitter' at_point
  | upPanic splitter' chunk why at_point | upSend splitter' part parts' random at_point
  | upRelease splitter' at_point | upClose at_point =>
    rw [hup] at at_point
    cases at_point
  | downReceive incoming rest at_point | downEnd rest at_point | downUnreadable err rest at_point
  | downPanic why rest at_point | downDeliver data k at_point | downRefused frame' k at_point
  | downWriteLast frame' k at_point | downWrite frame' k at_point | downShutdown at_point =>
    rw [ping] at at_point
    cases at_point

/-! ## Delivering without the lock -/

theorem nextIncoming_shorter (frames : List WireFrame) (incoming : WsIncoming)
    (h : (nextIncoming frames).1 = some incoming) :
    (nextIncoming frames).2.length < frames.length := by
  induction frames with
  | nil => cases h
  | cons f frames ih =>
    rw [nextIncoming] at h ⊢
    cases hframe : f.frame with
    | pong payload =>
      rw [hframe] at h
      exact Nat.lt_succ_of_lt (ih h)
    | binary payload | ping payload | close info | other payload => exact Nat.lt_succ_self _

theorem step_receive (s : Bridge) (frames : List WireFrame) (tail : Bytes) (incoming : WsIncoming)
    (runs : s.up ≠ .panicked) (receiving : s.down = .receiving)
    (arrived : s.server = frames.flatMap WireFrame.encode ++ tail)
    (next : (nextIncoming frames).1 = some incoming) :
    ∃ t, step aes capacity s .downReceive = some t ∧ t.up = s.up ∧ t.down = .after incoming ∧
      t.server = (nextIncoming frames).2.flatMap WireFrame.encode ++ tail ∧
      t.delivered = s.delivered := by
  have hframe := recvFrame_tail frames tail [] incoming next
  have hruns : ¬ (s.up = .panicked ∨ s.down = .panicked) := by simp [runs, receiving]
  rw [step, if_neg hruns]
  simp only [resume, downReceived, receiving, arrived, hframe]
  exact ⟨_, rfl, rfl, rfl, rfl, rfl⟩

theorem step_deliver (s : Bridge) (data : Bytes) (runs : s.up ≠ .panicked)
    (delivering : s.down = .delivering data) :
    step aes capacity s (.downDeliver data.length) =
      some { s with delivered := s.delivered ++ data, down := .receiving } := by
  have hruns : ¬ (s.up = .panicked ∨ s.down = .panicked) := by simp [runs, delivering]
  have hwhole : data.length ≤ data.length ∧ (0 < data.length ∨ data = []) := by
    refine ⟨Nat.le_refl _, ?_⟩
    cases data with
    | nil => exact .inr rfl
    | cons b data => exact .inl (Nat.succ_pos _)
  rw [step, if_neg hruns]
  simp only [resume, downDelivered, delivering]
  rw [if_pos hwhole, if_pos trivial, List.take_length]

theorem deliverable_of_step (s t : Bridge) (frames rest : List WireFrame) (label : Label)
    (down : isDown label = true) (hstep : step aes capacity s label = some t)
    (hrest : t.delivered ++ toDeliver t.down rest = s.delivered ++ toDeliver s.down frames)
    (h : Deliverable aes capacity t rest) : Deliverable aes capacity s frames := by
  obtain ⟨labels, u, hdown, hrun, hdelivered⟩ := h
  refine ⟨label :: labels, u, ?_, ?_, hdelivered.trans hrest⟩
  · intro other hother
    rcases List.mem_cons.mp hother with rfl | hmem
    · exact down
    · exact hdown other hmem
  · exact (run_cons_eq_some _ _ _ _ _).mpr ⟨t, hstep, hrun⟩

theorem deliverable_of_nothing (s : Bridge) (frames : List WireFrame)
    (h : toDeliver s.down frames = []) : Deliverable aes capacity s frames :=
  ⟨[], s, by simp, rfl, by rw [h, List.append_nil]⟩

/-- The data in hand goes out first. -/
theorem deliverable_delivering (s : Bridge) (frames : List WireFrame) (data : Bytes)
    (runs : s.up ≠ .panicked) (delivering : s.down = .delivering data)
    (h : Deliverable aes capacity { s with delivered := s.delivered ++ data, down := .receiving } frames) :
    Deliverable aes capacity s frames := by
  apply deliverable_of_step aes capacity s _ frames frames _ rfl
    (step_deliver aes capacity s data runs delivering) _ h
  rw [delivering]
  exact List.append_assoc _ _ _

/-- Frames without data behind a Ping are delivered without the lock. -/
theorem deliverable_receiving (frames : List WireFrame) (s : Bridge) (tail : Bytes)
    (runs : s.up ≠ .panicked) (receiving : s.down = .receiving)
    (arrived : s.server = frames.flatMap WireFrame.encode ++ tail)
    (free : dataBehindPing frames = []) : Deliverable aes capacity s frames := by
  induction hlen : frames.length using Nat.strong_induction_on generalizing frames s with
  | _ n ih =>
    have hdata := expectedData_nextIncoming frames
    have hheld := dataBehindPing_nextIncoming frames
    cases hnext : (nextIncoming frames).1 with
    | none =>
      rw [hnext] at hdata
      apply deliverable_of_nothing
      rw [receiving]
      exact hdata
    | some incoming =>
      rw [hnext] at hdata hheld
      obtain ⟨t, hreceive, hup, hdown, hserver, hdelivered⟩ :=
        step_receive aes capacity s frames tail incoming runs receiving arrived hnext
      rw [← hup] at runs
      cases incoming with
      | binary data =>
        have hshorter := nextIncoming_shorter frames _ hnext
        apply deliverable_of_step aes capacity s t frames (nextIncoming frames).2 _ rfl hreceive
        · rw [receiving, hdown, hdelivered]
          exact congrArg (s.delivered ++ ·) hdata.symm
        · apply deliverable_delivering aes capacity t _ data runs hdown
          exact ih _ (hlen ▸ hshorter) (nextIncoming frames).2 _ runs rfl hserver
            (hheld.symm.trans free) rfl
      | ping payload =>
        apply deliverable_of_nothing
        rw [receiving]
        exact hdata.trans (hheld.symm.trans free)
      | close info =>
        apply deliverable_of_nothing
        rw [receiving]
        exact hdata

/-! ## Data behind a Ping -/

/-- The task waits for the lock with data behind it, or has yet to come to that Ping. -/
structure HeldBack (s : Bridge) (target : Bytes) (tail : Bytes) (rest : List WireFrame) : Prop where
  holder : s.holder = some .up
  free : downHolds s.down = false
  server : s.server = rest.flatMap WireFrame.encode ++ tail
  total : s.delivered ++ toDeliver s.down rest = target
  held : heldBack s.down rest ≠ []

/-- Frames with data behind a Ping have a next one, and receiving it moves nothing. -/
theorem receives_of_heldBack (rest : List WireFrame) (tail : Bytes) (held : dataBehindPing rest ≠ []) :
    ∃ incoming after, recvFrame.run ⟨rest.flatMap WireFrame.encode ++ tail, []⟩ =
        (.ok (some incoming), ⟨after.flatMap WireFrame.encode ++ tail, []⟩) ∧
      heldBack (.after incoming) after = dataBehindPing rest ∧
      toDeliver (.after incoming) after = expectedData rest := by
  have hheld := dataBehindPing_nextIncoming rest
  have hdata := expectedData_nextIncoming rest
  cases hnext : (nextIncoming rest).1 with
  | none =>
    rw [hnext] at hheld
    exact absurd hheld held
  | some incoming =>
    rw [hnext] at hheld hdata
    exact ⟨incoming, (nextIncoming rest).2, recvFrame_tail rest tail [] incoming hnext, hheld.symm,
      hdata.symm⟩

/-- No step of the task gets data past the Ping. -/
theorem heldBack_step (s t : Bridge) (target tail : Bytes) (rest : List WireFrame) (label : Label)
    (down : isDown label = true) (inv : HeldBack s target tail rest)
    (h : step aes capacity s label = some t) : ∃ rest', HeldBack t target tail rest' := by
  obtain ⟨hholder, hfree, hserver, htotal, hheld⟩ := inv
  have move := move_of_step aes capacity s t label h
  cases move with
  | upRead | upEof | upLock | upPanic | upLockClose | upSend | upRefused | upWrite | upRelease | upClose
  | upIoError | downIoError | serverTakes => cases down
  | downLock payload random at_point free | downLockRefused payload random at_point free =>
    rw [hholder] at free
    cases free
  | downRefused frame k at_point | downWriteLast frame k at_point | downWrite frame k at_point =>
    rw [at_point] at hfree
    cases hfree
  | downShutdown at_point =>
    rw [at_point] at hheld
    exact absurd rfl hheld
  | downDeliver data k at_point part =>
    rw [at_point] at htotal hheld
    refine ⟨rest, hholder, ?_, hserver, ?_, ?_⟩
    · dsimp only
      split <;> rfl
    · dsimp only
      rw [← htotal]
      split
      · rename_i hk
        rw [hk, List.take_length, List.append_assoc]
        rfl
      · rw [toDeliver, toDeliver, List.append_assoc, ← List.append_assoc (data.take k),
          List.take_append_drop]
    · dsimp only
      split <;> exact hheld
  | downReceive incoming after at_point frame =>
    rw [at_point] at htotal hheld
    obtain ⟨found, rest', hframe, hbehind, hdata⟩ := receives_of_heldBack rest tail hheld
    rw [← hserver, frame, Prod.mk.injEq, Except.ok.injEq, Option.some.injEq] at hframe
    obtain ⟨rfl, rfl⟩ := hframe
    refine ⟨rest', hholder, downAfter_free incoming, rfl, ?_, ?_⟩
    · dsimp only
      rw [hdata]
      exact htotal
    · rw [hbehind]
      exact hheld
  | downEnd after at_point frame | downUnreadable err after at_point frame
  | downPanic why after at_point frame =>
    rw [at_point] at hheld
    obtain ⟨found, rest', hframe, -, -⟩ := receives_of_heldBack rest tail hheld
    rw [← hserver, frame] at hframe
    cases (Prod.mk.inj hframe).1

/-- No run of the task alone gets data past the Ping. -/
theorem not_deliverable_of_heldBack (s : Bridge) (frames : List WireFrame) (tail : Bytes)
    (holder : s.holder = some .up) (free : downHolds s.down = false)
    (arrived : s.server = frames.flatMap WireFrame.encode ++ tail)
    (held : heldBack s.down frames ≠ []) : ¬ Deliverable aes capacity s frames := by
  intro ⟨labels, t, hdown, hrun, hdelivered⟩
  have hinv := run_invariant (step aes capacity)
    (fun t => ∃ rest, HeldBack t (s.delivered ++ toDeliver s.down frames) tail rest)
    (fun _ label => isDown label = true)
    (fun s label t hs hlabel hstep => by
      obtain ⟨rest, inv⟩ := hs
      exact heldBack_step aes capacity s t _ tail rest label hlabel inv hstep)
    s t labels ⟨frames, holder, free, arrived, rfl, held⟩
    (along_of_forall _ _ _ _ hdown) hrun
  obtain ⟨rest, inv⟩ := hinv
  have htotal := inv.total
  rw [← hdelivered, List.append_right_eq_self] at htotal
  have hsuffix := heldBack_suffix t.down rest
  rw [htotal, List.suffix_nil] at hsuffix
  exact inv.held hsuffix

/-! ## Every reachable state -/

/-- In every reachable state of back-pressure, the task from the WebSocket can deliver the
data of the frames that have arrived, by its own steps, exactly if none of it stands behind
an unanswered Ping. -/
theorem downstream_goes_on_iff (random : Option MaskKey) (init : Bytes)
    (splitter : Option MtProtoMessageSplitter) (client server : Bytes) (labels : List Label)
    (s : Bridge) (frames : List WireFrame) (tail : Bytes)
    (ends : runBridge aes capacity (start random init splitter client server) labels = some s)
    (pressed : Backpressured capacity s)
    (arrived : s.server = frames.flatMap WireFrame.encode ++ tail) :
    Deliverable aes capacity s frames ↔ heldBack s.down frames = [] := by
  have locked := run_locked aes capacity random init splitter client server labels s ends
  obtain ⟨hholder, hfree⟩ := holds_of_sending capacity s locked pressed
  obtain ⟨sp, frame, parts, hup⟩ := pressed.sending
  have hruns : s.up ≠ .panicked := by simp [hup]
  constructor
  · intro hdeliverable
    by_contra held
    exact not_deliverable_of_heldBack aes capacity s frames tail hholder hfree arrived held hdeliverable
  · intro hnothing
    cases hdown : s.down with
    | unstarted => exact absurd hdown pressed.started
    | receiving =>
      rw [hdown] at hnothing
      exact deliverable_receiving aes capacity frames s tail hruns hdown arrived hnothing
    | delivering data =>
      rw [hdown] at hnothing
      apply deliverable_delivering aes capacity s frames data hruns hdown
      exact deliverable_receiving aes capacity frames _ tail hruns rfl arrived hnothing
    | locking payload =>
      rw [hdown] at hnothing
      apply deliverable_of_nothing
      rw [hdown]
      exact hnothing
    | answering frame =>
      rw [hdown] at hfree
      cases hfree
    | shuttingDown | done | failed | panicked =>
      apply deliverable_of_nothing
      rw [hdown]
      rfl

/-- A transport that the init packet fills, and a client with one more octet. -/
def pressedStart (frames : List WireFrame) : Bridge :=
  start none [1, 2, 3] none [7] (frames.flatMap WireFrame.encode)

/-- The task from the client gets as far as `send`. -/
def fillTransport : List Label := [.upWrite 9, .upRelease, .upRead 1, .upLock, .upSend none]

/-- One binary frame, then a Ping. -/
def dataFirst : List WireFrame := sampleServer.reverse

theorem downstream_goes_on_iff_data_first :
    ∃ s, runBridge (fun _ _ _ => 0) 9 (pressedStart dataFirst) fillTransport = some s ∧
      s.delivered = [] ∧ Deliverable (fun _ _ _ => 0) 9 s dataFirst :=
  ⟨_, rfl, rfl, (downstream_goes_on_iff (fun _ _ _ => 0) 9 none [1, 2, 3] none [7] _ fillTransport _
    dataFirst [] rfl ⟨by decide, ⟨_, _, _, rfl⟩, by decide⟩ (by decide)).mpr rfl⟩

/-- With the Ping first both tasks wait for the server, with one octet to deliver. -/
theorem ping_stops_downstream :
    (∃ s, runBridge (fun _ _ _ => 0) 9 (pressedStart sampleServer) (fillTransport ++ [.downReceive]) =
        some s ∧ Backpressured 9 s ∧ s.delivered = [] ∧ toDeliver s.down (sampleServer.drop 1) = [0x62] ∧
      ∀ label t, step (fun _ _ _ => 0) 9 s label = some t →
        label.isIoError = true ∨ ∃ k, label = .serverTakes k) ∧
    ¬ ∀ (aes : Aes256) (capacity : Nat) (random : Option MaskKey) (init : Bytes)
      (splitter : Option MtProtoMessageSplitter) (client server : Bytes) (labels : List Label)
      (s : Bridge) (frames : List WireFrame) (tail : Bytes),
      runBridge aes capacity (start random init splitter client server) labels = some s →
      Backpressured capacity s → s.server = frames.flatMap WireFrame.encode ++ tail →
      Deliverable aes capacity s frames := by
  have hrun : runBridge (fun _ _ _ => 0) 9 (pressedStart sampleServer)
      (fillTransport ++ [.downReceive]) = some _ := rfl
  have locked := run_locked (fun _ _ _ => 0) 9 none [1, 2, 3] none [7] _ _ _ hrun
  constructor
  · refine ⟨_, hrun, ⟨by decide, ⟨_, _, _, rfl⟩, by decide⟩, rfl, rfl, ?_⟩
    intro label t
    exact both_wait (fun _ _ _ => 0) 9 _ t locked ⟨by decide, ⟨_, _, _, rfl⟩, by decide⟩ _ rfl label
  · intro h
    apply not_deliverable_of_heldBack (fun _ _ _ => 0) 9 _ (sampleServer.drop 1) [] rfl rfl (by decide)
      (by decide) (h _ _ none [1, 2, 3] none [7] _ _ _ _ [] hrun ⟨by decide, ⟨_, _, _, rfl⟩, by decide⟩ (by decide))

end TgWsProxy.Guarantees.BridgeBackpressure
