import TgWsProxy.Guarantees.BridgeLiveness

/-!
# Whether the client gets everything

As long as no Pong is due behind the close of the writer, what the client has got is at
every moment a beginning of what the server sent for it, and all of it once the task from
the WebSocket has ended. A run that cannot go on has come to that end
(`bridge_delivers_downstream`). A Pong that is due later loses the data behind its Ping.
-/

set_option autoImplicit false

namespace TgWsProxy.Guarantees.BridgeDelivery
open Library Library.Transition Source.Telegram Source.Ws Source.Relay BridgeLock BridgeDownstream
open BridgeLiveness

variable (aes : Aes256) (capacity : Nat)

/-- In a run in which every Pong is due before the writer closes, the client gets
the server's data, in order and once, and all of it when the task ends. At rest it has
ended, unless the greeting failed and it never began. -/
theorem bridge_delivers_downstream (random : Option MaskKey) (init : Bytes)
    (splitter : Option MtProtoMessageSplitter) (client : Bytes) (frames : List WireFrame)
    (labels : List Label) (s : Bridge)
    (in_time : Along (step aes capacity) PongsInTime
      (start random init splitter client (frames.flatMap WireFrame.encode)) labels)
    (ends : runBridge aes capacity
      (start random init splitter client (frames.flatMap WireFrame.encode)) labels = some s) :
    s.delivered <+: expectedData frames ∧ s.down ≠ .failed ∧
      (s.down = .done → s.delivered = expectedData frames) ∧
      (0 < capacity → AtRest aes capacity s →
        (s.down = .done ∧ s.delivered = expectedData frames) ∨
          (s.down = .unstarted ∧ s.up = .failed)) := by
  obtain ⟨rest, hserver, hdata, hruns⟩ :=
    run_delivering aes capacity random init splitter client frames labels s in_time ends
  have hdelivered : s.down = .done → s.delivered = expectedData frames := by
    intro hdone
    rw [hdone, toDeliver, List.append_nil] at hdata
    exact hdata
  refine ⟨⟨_, hdata⟩, hruns.1, hdelivered, ?_⟩
  intro room hrest
  obtain ⟨locked, parted, live⟩ := run_live aes capacity random init splitter client _ labels s ends
  rw [atRest_iff] at hrest
  obtain ⟨⟨-, hdown⟩, -⟩ := ended_of_rest aes capacity s room locked parted live hruns.2 hrest
  rcases hdown with hdone | hfailed | hunstarted
  · exact .inl ⟨hdone, hdelivered hdone⟩
  · exact absurd hfailed hruns.1
  · exact .inr hunstarted

theorem bridge_delivers_downstream_sample :
    ∃ s, runBridge (fun _ _ _ => 0) 64 sampleStart pongFirstTaken = some s ∧ s.down = .done ∧
      s.delivered <+: expectedData sampleServer ∧ s.down ≠ .failed ∧
      (s.down = .done → s.delivered = expectedData sampleServer) ∧
      ((s.down = .done ∧ s.delivered = expectedData sampleServer) ∨
        (s.down = .unstarted ∧ s.up = .failed)) := by
  obtain ⟨s, hrun, hup, hdown, htaken⟩ : ∃ s, runBridge (fun _ _ _ => 0) 64 sampleStart pongFirstTaken =
      some s ∧ s.up = .done ∧ s.down = .done ∧ s.wire.length ≤ s.taken :=
    ⟨_, rfl, rfl, rfl, by decide⟩
  obtain ⟨hpart, hruns, hwhole, hrest⟩ := bridge_delivers_downstream (fun _ _ _ => 0) 64 none [1, 2, 3]
    none [] sampleServer pongFirstTaken s (by decide) hrun
  exact ⟨s, hrun, hdown, hpart, hruns, hwhole, hrest (by decide)
    (atRest_of_ended (fun _ _ _ => 0) 64 s ⟨.inl hup, .inl hdown⟩ htaken)⟩

theorem failed_run (s t : Bridge) (labels : List Label) (failed : s.down = .failed)
    (ends : runBridge aes capacity s labels = some t) : t.delivered = s.delivered := by
  have hinv := run_invariant_of_step (step aes capacity)
    (fun r => r.down = .failed ∧ r.delivered = s.delivered) ?_ s t labels ⟨failed, rfl⟩ ends
  · exact hinv.2
  · intro r label r' ⟨hfailed, hdelivered⟩ hstep
    obtain ⟨hdown, hsame⟩ :=
      failed_step aes capacity r r' label hfailed (move_of_step aes capacity r r' label hstep)
    exact ⟨hdown, hsame.trans hdelivered⟩

/-- The client closes before the Ping is answered. -/
def closeFirst : List Label :=
  [.upWrite 9, .upRelease, .upEof, .upLock, .upClose, .downReceive, .downLock none]

/-- No operation of the system fails here, and the octet behind the Ping is lost
however the run goes on. -/
theorem bridge_loses_data_after_close :
    (∀ label ∈ closeFirst, label.isIoError = false) ∧ expectedData sampleServer = [0x62] ∧
      ∃ s, runBridge (fun _ _ _ => 0) 64 sampleStart closeFirst = some s ∧
        ∀ labels t, runBridge (fun _ _ _ => 0) 64 s labels = some t → t.delivered = [] :=
  ⟨by decide, rfl, _, rfl, fun labels t ends =>
    failed_run (fun _ _ _ => 0) 64 _ t labels rfl ends⟩

end TgWsProxy.Guarantees.BridgeDelivery
