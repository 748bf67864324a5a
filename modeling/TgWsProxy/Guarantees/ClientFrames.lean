import TgWsProxy.Guarantees.BridgeUpstream

/-!
# The frames that the proxy writes

Every frame that a task of the bridge hands to `write_all`, in any interleaving and with
any I/O errors, is final, unreserved, masked and in the shortest length form. A Pong
carries the payload of its Ping, of any length; so the frames are those of a client exactly
if no Ping that is answered has more than `125` octets (`client_frames_iff`).
-/

set_option autoImplicit false

namespace TgWsProxy.Guarantees.ClientFrames
open Library Library.Io Library.Transition Source.Telegram Source.Ws Source.Relay
open WsRoundTrip BridgeLock BridgeUpstream

/-- The opcodes from `0x8` on. -/
def IsControl (f : WireFrame) : Prop := f.first &&& 0x08 ≠ 0

instance (f : WireFrame) : Decidable (IsControl f) := inferInstanceAs (Decidable (_ ≠ _))

/-- A frame as a client has to write it. -/
structure WellFormed (f : WireFrame) : Prop where
  final : f.first &&& 0x80 ≠ 0
  unreserved : f.first &&& 0x70 = 0
  masked : f.second &&& 0x80 ≠ 0
  shortest : ∀ form : LengthForm, form.fits f.payload.length →
    (f.form.extension f.payload.length).length ≤ (form.extension f.payload.length).length
  control : IsControl f → f.payload.length ≤ 125

/-- The Ping whose Pong a step starts has at most `125` octets. -/
def ShortPing (s : Bridge) (label : Label) : Prop :=
  ∀ payload ∈ pongStarted s label, payload.length ≤ 125

instance (s : Bridge) (label : Label) : Decidable (ShortPing s label) :=
  inferInstanceAs (Decidable (∀ _ ∈ _, _))

/-! ## Built frames -/

theorem built_shortest (key : MaskKey) (opcode : UInt8) (payload : Bytes)
    (held : payload.length ≤ isizeMax) (form : LengthForm) (fits : form.fits payload.length) :
    ((builtFrame key opcode payload held).form.extension payload.length).length ≤
      (form.extension payload.length).length := by
  unfold builtFrame
  dsimp only
  by_cases hshort : payload.length < 126
  · rw [if_pos hshort]
    exact Nat.zero_le _
  · rw [if_neg hshort]
    by_cases hmedium : payload.length ≤ 65535
    · rw [if_pos hmedium]
      cases form with
      | short => exact absurd fits hshort
      | medium => exact Nat.le_refl _
      | long => simp only [LengthForm.extension, toBE_length]; decide
    · rw [if_neg hmedium]
      cases form with
      | short => exact absurd fits hshort
      | medium => simp only [LengthForm.fits] at fits; omega
      | long => exact Nat.le_refl _

theorem first_bits : ∀ opcode : Fin 16,
    (0x80 ||| (UInt8.ofNat opcode &&& 0x0F)) &&& 0x80 ≠ 0 ∧
    (0x80 ||| (UInt8.ofNat opcode &&& 0x0F)) &&& 0x70 = 0 := by
  decide

/-- A built frame is well formed but for the length of a control frame. -/
theorem built_wellFormed (key : MaskKey) (opcode : UInt8) (payload : Bytes)
    (held : payload.length ≤ isizeMax) (nibble : opcode < 16)
    (control : IsControl (builtFrame key opcode payload held) → payload.length ≤ 125) :
    WellFormed (builtFrame key opcode payload held) := by
  have hfirst := first_bits ⟨opcode.toNat, UInt8.lt_iff_toNat_lt.mp nibble⟩
  simp only [UInt8.ofNat_toNat] at hfirst
  exact ⟨hfirst.1, hfirst.2, (builtFrame key opcode payload held).header.second_masked.mpr rfl,
    built_shortest key opcode payload held, control⟩

/-- A Pong's octets are those of a well-formed frame only if its payload is short. -/
theorem pong_short (random : Option MaskKey) (payload : Bytes) (held : payload.length ≤ isizeMax)
    (f : WireFrame) (wellFormed : WellFormed f)
    (same : f.encode = buildFrameWithOpcode random 0xA payload) : payload.length ≤ 125 := by
  have hfirst : f.first = 0x8A := by
    unfold WireFrame.encode buildFrameWithOpcode at same
    exact (List.cons.inj same).1
  have hread := readFrame_encode f [] []
  rw [same, readFrame_buildFrame random 0xA payload [] [] (by decide) held] at hread
  have hframe := Option.some.inj (Except.ok.inj (Prod.mk.inj hread).1)
  rw [WireFrame.frame, hfirst] at hframe
  have hpayload : payload = f.payload := WsFrame.pong.inj hframe
  rw [hpayload]
  apply wellFormed.control
  unfold IsControl
  rw [hfirst]
  decide

/-! ## Runs -/

variable (aes : Aes256) (capacity : Nat)

/-- What a step hands to `write_all` is a built frame for the next part or for the Ping. -/
theorem handed_of_move (s t : Bridge) (label : Label) (h : Move aes capacity s label t) :
    (handed label t = [] ∧ pongStarted s label = []) ∨
    (∃ random part parts splitter, s.up = .holding splitter (part :: parts) ∧
      handed label t = [buildFrame random part] ∧ pongStarted s label = []) ∨
    (∃ random payload, s.down = .locking payload ∧
      handed label t = [buildFrameWithOpcode random 0xA payload] ∧
      pongStarted s label = [payload]) := by
  cases h with
  | upSend splitter part parts random at_point =>
    exact .inr (.inl ⟨random, part, parts, splitter, at_point, rfl, rfl⟩)
  | downLock payload random at_point free unclosed =>
    exact .inr (.inr ⟨random, payload, at_point, rfl, by simp [pongStarted, at_point, unclosed]⟩)
  | downLockRefused payload random at_point free shut =>
    exact .inl ⟨rfl, by simp [pongStarted, at_point, shut]⟩
  | _ => exact .inl ⟨rfl, rfl⟩

/-- The frames that a run of the bridge hands to `write_all`, the init packet's first. -/
def framesWritten (random : Option MaskKey) (init : Bytes) (splitter : Option MtProtoMessageSplitter)
    (client server : Bytes) (labels : List Label) : List Bytes :=
  buildFrame random init ::
    outputs (step aes capacity) (fun _ label t => handed label t)
      (start random init splitter client server) labels

/-- Without an I/O error these are the octets on the wire and of the frame in flight. -/
theorem wire_eq_framesWritten (random : Option MaskKey) (init : Bytes)
    (splitter : Option MtProtoMessageSplitter) (client server : Bytes) (labels : List Label)
    (s : Bridge) (healthy : ∀ label ∈ labels, label.isIoError = false)
    (ends : runBridge aes capacity (start random init splitter client server) labels = some s) :
    s.wire ++ upFrame s.up ++ downFrame s.down =
      (framesWritten aes capacity random init splitter client server labels).flatten := by
  have hrun := run_outputs (step aes capacity) (fun _ label t => handed label t)
    (fun s frames => Locked s ∧ s.wire ++ upFrame s.up ++ downFrame s.down = frames.flatten)
    (fun _ label => label.isIoError = false) ?_ _ s [buildFrame random init] labels
    ⟨start_locked random init splitter client server, rfl⟩
    (along_of_forall _ _ _ labels healthy) ends
  · exact hrun.2
  · intro s frames label t ⟨locked, hwire⟩ healthy hstep
    have move := move_of_step aes capacity s t label hstep
    refine ⟨locked_step aes capacity s t label locked move, ?_⟩
    rw [wire_step aes capacity s t label locked healthy move, hwire, List.flatten_append]

/-- The octets are those of well-formed frames, and the control frames among them have the
payloads of the first Pings in order. -/
def AreClientFrames (frames : List Bytes) (received : List WsIncoming) : Prop :=
  ∃ log : List WireFrame, frames = log.map WireFrame.encode ∧ (∀ f ∈ log, WellFormed f) ∧
    (log.filter (fun f => IsControl f)).map WireFrame.payload <+: pings received

/-- What holds after each step as long as the Pings are short. -/
def Logged (s : Bridge) (frames : List Bytes) : Prop :=
  Parted s ∧ ∃ log : List WireFrame, frames = log.map WireFrame.encode ∧
    (∀ f ∈ log, WellFormed f) ∧
    Answers s ((log.filter (fun f => IsControl f)).map WireFrame.payload)

/-- One more well-formed frame, which carries the Ping that was in hand if it is a Pong. -/
theorem logged_snoc (t : Bridge) (log : List WireFrame) (f : WireFrame) (parted : Parted t)
    (wellFormed : ∀ g ∈ log, WellFormed g) (next : WellFormed f)
    (answers : Answers t ((log.filter (fun g => IsControl g)).map WireFrame.payload ++
      if IsControl f then [f.payload] else [])) :
    Logged t (log.map WireFrame.encode ++ [f.encode]) := by
  refine ⟨parted, log ++ [f], by simp, ?_, ?_⟩
  · intro g hg
    rcases List.mem_append.mp hg with hg | hg
    · exact wellFormed g hg
    · obtain rfl := List.mem_singleton.mp hg
      exact next
  · by_cases hcontrol : IsControl f
    · simpa [hcontrol] using answers
    · simpa [hcontrol] using answers

theorem control_builtFrame (key : MaskKey) (payload : Bytes) (held : payload.length ≤ isizeMax) :
    ¬ IsControl (builtFrame key 0x2 payload held) ∧ IsControl (builtFrame key 0xA payload held) := by
  have hbits : ((0x80 : UInt8) ||| (0x2 &&& 0x0F)) &&& 0x08 = 0 ∧
      ((0x80 : UInt8) ||| (0xA &&& 0x0F)) &&& 0x08 ≠ 0 := by
    decide
  exact ⟨fun h => h hbits.1, hbits.2⟩

theorem logged_step (s : Bridge) (frames : List Bytes) (label : Label) (t : Bridge)
    (logged : Logged s frames) (short : ShortPing s label)
    (hstep : step aes capacity s label = some t) : Logged t (frames ++ handed label t) := by
  obtain ⟨parted, log, rfl, wellFormed, answers⟩ := logged
  have move := move_of_step aes capacity s t label hstep
  have hparted := parted_step aes capacity s t label parted move
  have hanswers := answers_step aes capacity s t label _ answers move
  rcases handed_of_move aes capacity s t label move with ⟨hnone, hping⟩ |
    ⟨random, part, parts, splitter, at_point, hpart, hping⟩ | ⟨random, payload, at_point, hpong, hping⟩
  · rw [hping, List.append_nil] at hanswers
    rw [hnone, List.append_nil]
    exact ⟨hparted, log, rfl, wellFormed, hanswers⟩
  · obtain ⟨-, hle⟩ := parted.parts part (by simp [at_point, upParts])
    have hheld : part.length ≤ isizeMax := Nat.le_trans hle (by decide)
    have hdata := (control_builtFrame (random.getD fallbackKey) part hheld).1
    rw [hpart, buildFrame, buildFrame_eq_encode random 0x2 part hheld]
    apply logged_snoc t log _ hparted wellFormed
    · exact built_wellFormed _ 0x2 part hheld (by decide) fun h => (hdata h).elim
    · rw [if_neg hdata, ← hping]
      exact hanswers
  · have hheld := parted.ping payload (by simp [at_point, downUnanswered])
    have hcontrol := (control_builtFrame (random.getD fallbackKey) payload hheld).2
    rw [hpong, buildFrame_eq_encode random 0xA payload hheld]
    apply logged_snoc t log _ hparted wellFormed
    · exact built_wellFormed _ 0xA payload hheld (by decide) fun _ =>
        short payload (by rw [hping]; exact List.mem_singleton_self payload)
    · rw [if_pos hcontrol]
      rw [hping] at hanswers
      exact hanswers

/-- Short Pings: what is written are a client's frames. -/
theorem clientFrames_of_short (random : Option MaskKey) (init : Bytes)
    (splitter : Option MtProtoMessageSplitter) (client server : Bytes) (labels : List Label)
    (s : Bridge) (held : init.length ≤ isizeMax)
    (ends : runBridge aes capacity (start random init splitter client server) labels = some s)
    (short : Along (step aes capacity) ShortPing (start random init splitter client server) labels) :
    AreClientFrames (framesWritten aes capacity random init splitter client server labels)
      s.received := by
  have hdata := (control_builtFrame (random.getD fallbackKey) init held).1
  have hstart : Logged (start random init splitter client server) [buildFrame random init] := by
    rw [buildFrame, buildFrame_eq_encode random 0x2 init held]
    apply logged_snoc _ [] _ (start_parted random init splitter client server) (by simp)
    · exact built_wellFormed _ 0x2 init held (by decide) fun h => (hdata h).elim
    · rw [if_neg hdata]
      exact ⟨[], rfl, fun _ => rfl⟩
  obtain ⟨-, log, hlog, wellFormed, lost, hpings, -⟩ := run_outputs (step aes capacity)
    (fun _ label t => handed label t) Logged ShortPing
    (fun s before label t => logged_step aes capacity s before label t) _ s _ labels hstart short ends
  refine ⟨log, hlog, wellFormed, downUnanswered s.down ++ lost, ?_⟩
  rw [← List.append_assoc]
  exact hpings

/-- A long Ping that is answered shows in what is written. -/
theorem short_of_clientFrames (random : Option MaskKey) (init : Bytes)
    (splitter : Option MtProtoMessageSplitter) (client server : Bytes) (labels : List Label)
    (s : Bridge)
    (ends : runBridge aes capacity (start random init splitter client server) labels = some s)
    (written : AreClientFrames
      (framesWritten aes capacity random init splitter client server labels) s.received) :
    Along (step aes capacity) ShortPing (start random init splitter client server) labels := by
  obtain ⟨log, hlog, wellFormed, -⟩ := written
  refine along_of_outputs (step aes capacity) (fun _ label t => handed label t) Parted ShortPing
    (fun octets => ∃ f : WireFrame, WellFormed f ∧ f.encode = octets) ?_ ?_ _ s labels
    (start_parted random init splitter client server) ends ?_
  · intro s label t parted hstep
    exact parted_step aes capacity s t label parted (move_of_step aes capacity s t label hstep)
  · intro s label t parted hstep good payload hping
    have move := move_of_step aes capacity s t label hstep
    rcases handed_of_move aes capacity s t label move with ⟨-, hnone⟩ |
      ⟨random, part, parts, splitter, -, -, hnone⟩ | ⟨random, body, at_point, hpong, hbody⟩
    · rw [hnone] at hping
      cases hping
    · rw [hnone] at hping
      cases hping
    · rw [hbody] at hping
      obtain rfl := List.mem_singleton.mp hping
      obtain ⟨f, hf, hsame⟩ := good _ (by rw [hpong]; exact List.mem_singleton_self _)
      exact pong_short random payload (parted.ping payload (by simp [at_point, downUnanswered])) f hf
        hsame
  · intro octets hoctets
    have hmem : octets ∈ log.map WireFrame.encode := by
      rw [← hlog]
      exact List.mem_cons_of_mem _ hoctets
    obtain ⟨f, hf, hsame⟩ := List.mem_map.mp hmem
    exact ⟨f, wellFormed f hf, hsame⟩

/-- The frames that a run writes are a client's, and its Pongs those of the Pings, exactly if no
Ping that it answers has more than `125` octets. Without an I/O error they are what is on the
wire, and what is left of the frame in flight. -/
theorem client_frames_iff (random : Option MaskKey) (init : Bytes)
    (splitter : Option MtProtoMessageSplitter) (client server : Bytes) (labels : List Label)
    (s : Bridge) (held : init.length ≤ isizeMax)
    (ends : runBridge aes capacity (start random init splitter client server) labels = some s) :
    (AreClientFrames (framesWritten aes capacity random init splitter client server labels)
        s.received ↔
      Along (step aes capacity) ShortPing (start random init splitter client server) labels) ∧
    ((∀ label ∈ labels, label.isIoError = false) →
      s.wire ++ upFrame s.up ++ downFrame s.down =
        (framesWritten aes capacity random init splitter client server labels).flatten) := by
  refine ⟨⟨?_, ?_⟩, ?_⟩
  · exact short_of_clientFrames aes capacity random init splitter client server labels s ends
  · exact clientFrames_of_short aes capacity random init splitter client server labels s held ends
  · intro healthy
    exact wire_eq_framesWritten aes capacity random init splitter client server labels s healthy ends

/-- A run that answers a Ping of one octet. -/
theorem client_frames_iff_short_ping :
    ∃ s, runBridge (fun _ _ _ => 0) 64 (start none [1, 2, 3] none [7, 8] samplePing) sampleLabels =
        some s ∧
      AreClientFrames (framesWritten (fun _ _ _ => 0) 64 none [1, 2, 3] none [7, 8] samplePing
        sampleLabels) s.received ∧
      s.wire ++ upFrame s.up ++ downFrame s.down =
        (framesWritten (fun _ _ _ => 0) 64 none [1, 2, 3] none [7, 8] samplePing sampleLabels).flatten := by
  have hrun : runBridge (fun _ _ _ => 0) 64 (start none [1, 2, 3] none [7, 8] samplePing) sampleLabels =
      some _ := rfl
  obtain ⟨hframes, hwire⟩ := client_frames_iff (fun _ _ _ => 0) 64 none [1, 2, 3] none [7, 8] samplePing
    sampleLabels _ (by decide) hrun
  exact ⟨_, hrun, hframes.mpr (by decide +kernel), hwire (by decide)⟩

/-- A Ping with one octet more than a control frame may have. -/
def longPing : Bytes := [0x89, 126, 0, 126] ++ List.replicate 126 7

def answerLabels : List Label :=
  [.upWrite 9, .upRelease, .downReceive, .downLock none, .downWrite 134]

/-- The Pong of a Ping of `126` octets carries them all. -/
theorem long_ping_is_echoed :
    ∃ s, runBridge (fun _ _ _ => 0) 256 (start none [1, 2, 3] none [] longPing) answerLabels = some s ∧
      s.wire = buildFrame none [1, 2, 3] ++ buildFrameWithOpcode none 0xA (List.replicate 126 7) ∧
      ¬ AreClientFrames (framesWritten (fun _ _ _ => 0) 256 none [1, 2, 3] none [] longPing
        answerLabels) s.received := by
  have hrun : (runBridge (fun _ _ _ => 0) 256 (start none [1, 2, 3] none [] longPing)
      answerLabels).map Bridge.wire =
        some (buildFrame none [1, 2, 3] ++ buildFrameWithOpcode none 0xA (List.replicate 126 7)) := by
    decide +kernel
  obtain ⟨s, hends, hwire⟩ := Option.map_eq_some_iff.mp hrun
  refine ⟨s, hends, hwire, ?_⟩
  intro h
  have hshort := short_of_clientFrames (fun _ _ _ => 0) 256 none [1, 2, 3] none [] longPing
    answerLabels s hends h
  revert hshort
  decide +kernel

end TgWsProxy.Guarantees.ClientFrames
