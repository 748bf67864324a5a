import TgWsProxy.Library.Transition
import TgWsProxy.Source.Config
import TgWsProxy.Source.Std.IpAddr

/-!
# Server runtime

`bind_host` of `runtime/listen.rs`, `run_server` and its accept loops of
`runtime/server.rs`, and the accept loop of the health endpoint. What the system answers
is given: the resolver and the binding of sockets (`Net`), and the outcome of each
`accept`.

`run_server` waits for the first accept loop to finish and returns its result, which
aborts the others; `main` ends with it. An event is one `accept` that is due on a
listener, or `join_next` resuming. Where no loop accepts any more the outcome is nobody's.
-/

set_option autoImplicit false

namespace TgWsProxy.Source.Runtime
open Library Source.Std Source.Config

inductive SocketAddr where
  | v4 (ip : Ipv4Addr) (port : UInt16)
  | v6 (ip : Ipv6Addr) (port : UInt16) (flowinfo scopeId : UInt32)
  deriving DecidableEq, Repr

def SocketAddr.isIpv6 (addr : SocketAddr) : Bool :=
  match addr with
  | .v4 _ _ => false
  | .v6 _ _ _ _ => true

/-- An error of the system, or one that the program makes. -/
inductive ServerError (Err : Type) where
  | system (err : Err)
  | addrNotAvailable (reason : String)
  | invalidInput (reason : String)
  deriving DecidableEq, Repr

/-! ## Listening -/

def normalizeHost (host : String) : String :=
  match host.toList with
  | '[' :: rest => if rest.getLast? = some ']' then String.ofList rest.dropLast else host
  | _ => host

def hostIsUnspecified (host : String) : Bool :=
  match IpAddr.fromStr (normalizeHost host) with
  | some (.v4 ip) => ip.octets.all (· == 0)
  | some (.v6 ip) => ip.segments.all (· == 0)
  | none => false

/-- `[0u16; 8]`. -/
def unspecifiedIpv6 : Ipv6Addr := ⟨List.replicate 8 0, rfl⟩

/-- `to_socket_addrs`, and `bind_socket` with `TcpListener::from_std` behind it. -/
structure Net (Err : Type) where
  toSocketAddrs : String → UInt16 → Except Err (List SocketAddr)
  bindSocket : SocketAddr → Bool → Except Err Unit

section Listen
variable {Err : Type} (net : Net Err)

/-- The loop over the specs; an address that was seen before is left out. -/
def bindSpecs : List (SocketAddr × Bool) → List SocketAddr → Except (ServerError Err) (List SocketAddr)
  | [], _ => .ok []
  | (addr, v6Only) :: specs, seen =>
    if addr ∈ seen then bindSpecs specs seen
    else
      match net.bindSocket addr v6Only with
      | .error err => .error (.system err)
      | .ok () => (bindSpecs specs (addr :: seen)).map (addr :: ·)

def hostSpecs (host : String) (port : UInt16) : Except (ServerError Err) (List (SocketAddr × Bool)) :=
  let normalized := normalizeHost host
  if hostIsUnspecified normalized then
    .ok [(.v4 ⟨0, 0, 0, 0⟩ port, false), (.v6 unspecifiedIpv6 port 0 0, true)]
  else
    match net.toSocketAddrs normalized port with
    | .error err => .error (.system err)
    | .ok resolved => .ok (resolved.map fun addr => (addr, addr.isIpv6))

def bindHost (host : String) (port : UInt16) : Except (ServerError Err) (List SocketAddr) := do
  let specs ← hostSpecs net host port
  if specs = [] then
    .error (.addrNotAvailable
      ("no addresses resolved for " ++ host ++ ":" ++ toString port.toNat))
  else bindSpecs net specs []

/-- What was bound is never empty. -/
theorem bindHost_ne_nil (host : String) (port : UInt16) (listeners : List SocketAddr)
    (h : bindHost net host port = .ok listeners) : listeners ≠ [] := by
  unfold bindHost at h
  cases hspecs : hostSpecs net host port with
  | error err =>
    rw [hspecs] at h
    cases h
  | ok specs =>
    rw [hspecs] at h
    cases specs with
    | nil => cases h
    | cons spec specs =>
      obtain ⟨addr, v6Only⟩ := spec
      change bindSpecs net ((addr, v6Only) :: specs) [] = .ok listeners at h
      rw [bindSpecs, if_neg List.not_mem_nil] at h
      cases hbind : net.bindSocket addr v6Only with
      | error err =>
        rw [hbind] at h
        cases h
      | ok bound =>
        rw [hbind] at h
        dsimp only at h
        cases hrest : bindSpecs net specs [addr] with
        | error err =>
          rw [hrest] at h
          cases h
        | ok rest =>
          rw [hrest] at h
          rw [← Except.ok.inj h]
          exact List.cons_ne_nil _ _

end Listen

/-! ## Accepting -/

structure AcceptLoop where
  boundAddr : SocketAddr
  running : Bool
  deriving DecidableEq, Repr

def AcceptLoop.ended (loop : AcceptLoop) : AcceptLoop := { loop with running := false }

/-- `run_server` behind its start. -/
structure Server (Conn Err : Type) where
  routingConfig : RoutedConfig
  loops : List AcceptLoop
  /-- The listeners' numbers, connections and configurations that `route_client` got. -/
  handed : List (Nat × Conn × RoutedConfig)
  /-- The results of the loops that have finished, until `join_next` takes one. -/
  finished : List (ServerError Err)
  result : Option (Except (ServerError Err) Unit)

inductive Event (Conn Err : Type) where
  | accept (listener : Nat) (outcome : Except Err Conn)
  | joinNext

section Serve
variable {Conn Err : Type}

def runServer (net : Net Err) (config : CliConfig) :
    Except (ServerError Err) (Server Conn Err) := do
  let routingConfig ← (RoutedConfig.tryFrom config).mapError .invalidInput
  let listeners ← bindHost net config.host config.port
  return ⟨routingConfig, listeners.map (⟨·, true⟩), [], [], none⟩

/-- One turn of `accept_loop`; the `?` ends the loop. -/
def Server.turn (s : Server Conn Err) (listener : Nat) (outcome : Except Err Conn) :
    Server Conn Err :=
  match outcome with
  | .ok conn => { s with handed := s.handed ++ [(listener, conn, s.routingConfig)] }
  | .error err => { s with
      loops := s.loops.modify listener .ended
      finished := s.finished ++ [.system err] }

/-- `run_server` returns and drops its `JoinSet`. -/
def Server.finish (s : Server Conn Err) (result : Except (ServerError Err) Unit) :
    Server Conn Err :=
  { s with loops := s.loops.map .ended, finished := [], result := some result }

def step (s : Server Conn Err) (event : Event Conn Err) : Option (Server Conn Err) :=
  match event with
  | .accept listener outcome =>
    match s.loops[listener]? with
    | none => none
    | some loop => some (if loop.running then s.turn listener outcome else s)
  | .joinNext =>
    if s.result.isSome then none
    else if s.loops = [] then some (s.finish (.ok ()))
    else
      match s.finished with
      | [] => none
      | err :: _ => some (s.finish (.error err))

/-- `serve_health_listener`: the connections that are answered. -/
def serveHealthListener : List (Except Err Conn) → List Conn
  | [] => []
  | .ok conn :: outcomes => conn :: serveHealthListener outcomes
  | .error _ :: outcomes => serveHealthListener outcomes

end Serve

end TgWsProxy.Source.Runtime
