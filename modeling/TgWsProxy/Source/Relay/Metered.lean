import TgWsProxy.Source.Relay

/-!
# Counters of the bridge

`BridgeStats` of `modules/relay.rs`. Each task counts what it reads, before it hands it
on, and keeps why its stream ended; the counters are `u64` and wrap. `join!` waits for
both tasks, and the counters are returned only if neither has failed.
-/

set_option autoImplicit false

namespace TgWsProxy.Source.Relay
open Library Library.Io Library.Transition Source.Telegram Source.Ws

structure BridgeStats where
  bytes : UInt64
  packets : UInt64
  endReason : String
  deriving DecidableEq, Repr

/-- `end_reason` after a Close frame. -/
def closeReason (info : WsCloseInfo) : String :=
  let code := (info.code.map fun code => toString code.toNat).getD "none"
  let reason := info.reason.getD "none"
  "ws_close(code=" ++ code ++ ",reason=" ++ reason ++ ")"

def BridgeStats.count (stats : BridgeStats) (n : Nat) : BridgeStats :=
  { stats with bytes := stats.bytes + UInt64.ofNat n, packets := stats.packets + 1 }

/-- The counters of the two tasks. -/
structure Meters where
  up : BridgeStats
  down : BridgeStats
  deriving DecidableEq, Repr

def Meters.zero : Meters := ⟨⟨0, 0, "client_eof"⟩, ⟨0, 0, "ws_eof"⟩⟩

/-- What a task counts when it resumes. -/
def Meters.record (m : Meters) (s : Bridge) (label : Label) : Meters :=
  match label with
  | .upRead n => { m with up := m.up.count n }
  | .downReceive =>
    match (recvFrame.run ⟨s.server, []⟩).1 with
    | .ok (some (.binary data)) => { m with down := m.down.count data.length }
    | .ok (some (.close info)) => { m with down := { m.down with endReason := closeReason info } }
    | _ => m
  | _ => m

variable (aes : Aes256) (capacity : Nat)

abbrev meteredStep : Bridge × Meters → Label → Option (Bridge × Meters) :=
  observed (step aes capacity) Meters.record

/-- What `bridge_ws_tcp` returns once both tasks have ended, or the greeting has failed; an
error stands for the I/O error of either. -/
def bridgeResult (s : Bridge) (m : Meters) : Option (Except Unit Meters) :=
  match s.up, s.down with
  | .failed, .unstarted => some (.error ())
  | .done, .done => some (.ok m)
  | .failed, .done | .done, .failed | .failed, .failed => some (.error ())
  | _, _ => none

end TgWsProxy.Source.Relay
