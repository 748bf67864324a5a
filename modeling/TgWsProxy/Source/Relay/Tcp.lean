import TgWsProxy.Library.Io

/-!
# Plain TCP bridge

`bridge_tcp_tcp` and `bridge_tcp_tcp_with_prelude` of `modules/relay.rs`. The
runtime enters as what it does with a connection attempt and with two connected
streams (`Network`). The two `shutdown` calls at the end send nothing.
-/

set_option autoImplicit false

namespace TgWsProxy.Source.Relay
open Library

structure Network where
  /-- What a remote has to send once it is connected. -/
  connect : String → UInt16 → Except IoError Bytes
  /-- `tokio::io::copy_bidirectional` on a client and a remote. -/
  copyBidirectional : Duplex → Duplex → Except IoError Unit × Duplex × Duplex

/-- The client's end and, where one was reached, the remote's. -/
structure TcpBridge where
  result : Except IoError Unit
  client : Duplex
  remote : Option Duplex

variable (net : Network)

def bridgeTcpTcpWithPrelude (client : Duplex) (remoteAddr : String) (remotePort : UInt16)
    (prelude : Bytes) : TcpBridge :=
  match net.connect remoteAddr remotePort with
  | .error err => ⟨.error err, client, none⟩
  | .ok sends =>
    let remote : Duplex := ⟨sends, []⟩
    let remote := if !prelude.isEmpty then { remote with output := prelude } else remote
    let (result, client, remote) := net.copyBidirectional client remote
    ⟨result, client, some remote⟩

def bridgeTcpTcp (client : Duplex) (remoteAddr : String) (remotePort : UInt16) : TcpBridge :=
  bridgeTcpTcpWithPrelude net client remoteAddr remotePort []

/-- Octets reach the other end in order, and all of them if the copy succeeds. -/
structure CopiesFaithfully (copy : Duplex → Duplex → Except IoError Unit × Duplex × Duplex) :
    Prop where
  upstream : ∀ client remote, (copy client remote).2.2.output <+: remote.output ++ client.input
  upstreamWhole : ∀ client remote, (copy client remote).1 = .ok () →
    (copy client remote).2.2.output = remote.output ++ client.input

theorem bridge_refused (client : Duplex) (remoteAddr : String) (remotePort : UInt16)
    (prelude : Bytes) (err : IoError) (h : net.connect remoteAddr remotePort = .error err) :
    bridgeTcpTcpWithPrelude net client remoteAddr remotePort prelude = ⟨.error err, client, none⟩ := by
  rw [bridgeTcpTcpWithPrelude, h]

/-- On a connection the streams are copied behind the prelude. -/
theorem bridge_connected (client : Duplex) (remoteAddr : String) (remotePort : UInt16)
    (prelude sends : Bytes) (h : net.connect remoteAddr remotePort = .ok sends) :
    ∃ remote, (bridgeTcpTcpWithPrelude net client remoteAddr remotePort prelude).remote = some remote ∧
      net.copyBidirectional client ⟨sends, prelude⟩ =
        ((bridgeTcpTcpWithPrelude net client remoteAddr remotePort prelude).result,
          (bridgeTcpTcpWithPrelude net client remoteAddr remotePort prelude).client, remote) := by
  have hprelude : (if !prelude.isEmpty then (⟨sends, prelude⟩ : Duplex) else ⟨sends, []⟩) =
      ⟨sends, prelude⟩ := by
    cases prelude with
    | nil => rfl
    | cons octet prelude => rfl
  unfold bridgeTcpTcpWithPrelude
  rw [h]
  dsimp only
  rw [hprelude]
  exact ⟨_, rfl, rfl⟩

end TgWsProxy.Source.Relay
