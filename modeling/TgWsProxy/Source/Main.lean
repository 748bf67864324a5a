import TgWsProxy.Source.Routing
import TgWsProxy.Source.Runtime

/-!
# The process

`main.rs` and the whole of `route_client`. The accept loops hand over connections, each of
which gets a task that runs the SOCKS handshake on its stream and, if that names a target,
the session behind it. The tasks go on side by side until `main` returns, with the server's
result or after a signal, and end with it.

A connection's task has the number that the connection has among those handed over.
-/

set_option autoImplicit false

namespace TgWsProxy.Source.Main
open Library Library.Io Source.Std Source.Config Source.Socks Source.Telegram Source.Runtime

structure Process (Err : Type) where
  server : Server Duplex Err
  /-- The errors that handshakes have ended with. -/
  refused : Nat → Option SocksError
  routing : Routing.System
  exited : Bool

inductive Event (Err : Type) where
  | serve (event : Runtime.Event Duplex Err)
  | handshake (i : Nat)
  | route (event : Routing.Event)
  | shutdown

section Run
variable {Err : Type} (aes : Aes256)

/-- `main` up to its `select!`. -/
def start (net : Net Err) (config : CliConfig) : Except (ServerError Err) (Process Err) :=
  (runServer net config).map fun server => ⟨server, fun _ => none, Routing.boot, false⟩

/-- The handshake of `route_client`: the session it goes on with, or the error that it
returns for. -/
def sessionOf (cfg : RoutedConfig) (conn : Duplex) : Except SocksError Routing.Session :=
  match (handleSocks5Handshake cfg.socksAuth).run conn with
  | (.error err, _) => .error err
  | (.ok (.connect targetHost targetPort), stream) => .ok ⟨targetHost, targetPort, stream.input⟩

/-- A session begins through a handshake only. -/
def begins (event : Routing.Event) : Bool :=
  match event with
  | .accept _ _ => true
  | .readInit _ _ | .resolve _ | .remember _ | .sample _ | .probe _ | .finish _ _ | .tick _ => false

def step (p : Process Err) (event : Event Err) : Option (Process Err) :=
  if p.exited then none
  else
    match event with
    | .serve event =>
      (Runtime.step p.server event).map fun server =>
        { p with server := server, exited := server.result.isSome }
    | .handshake i =>
      match p.server.handed[i]?, p.refused i, p.routing.tasks i with
      | some (_, conn, cfg), none, .idle =>
        match sessionOf cfg conn with
        | .error err => some { p with refused := Function.update p.refused i (some err) }
        | .ok session => some { p with routing := p.routing.put i (.accepted session) }
      | _, _, _ => none
    | .route event =>
      if begins event then none
      else (Routing.step aes p.routing event).map fun routing => { p with routing := routing }
    | .shutdown => some { p with exited := true }

/-- Every step: which part of the process moves, and how. -/
inductive Move (p : Process Err) : Event Err → Process Err → Prop
  | serve (event : Runtime.Event Duplex Err) (server : Server Duplex Err)
      (moves : Runtime.step p.server event = some server) :
      Move p (.serve event) { p with server := server, exited := server.result.isSome }
  | refuse (i listener : Nat) (conn : Duplex) (cfg : RoutedConfig) (err : SocksError)
      (handed : p.server.handed[i]? = some (listener, conn, cfg)) (fresh : p.refused i = none)
      (idle : p.routing.tasks i = .idle) (refused : sessionOf cfg conn = .error err) :
      Move p (.handshake i) { p with refused := Function.update p.refused i (some err) }
  | enter (i listener : Nat) (conn : Duplex) (cfg : RoutedConfig) (session : Routing.Session)
      (handed : p.server.handed[i]? = some (listener, conn, cfg)) (fresh : p.refused i = none)
      (idle : p.routing.tasks i = .idle) (admitted : sessionOf cfg conn = .ok session) :
      Move p (.handshake i) { p with routing := p.routing.put i (.accepted session) }
  | route (event : Routing.Event) (routing : Routing.System) (later : begins event = false)
      (moves : Routing.step aes p.routing event = some routing) :
      Move p (.route event) { p with routing := routing }
  | shutdown : Move p .shutdown { p with exited := true }

theorem move_of_step (p q : Process Err) (event : Event Err) (h : step aes p event = some q) :
    Move aes p event q := by
  unfold step at h
  split at h
  · cases h
  · cases event with
    | serve event =>
      obtain ⟨server, hserver, rfl⟩ := Option.map_eq_some_iff.mp h
      exact .serve event server hserver
    | handshake i =>
      dsimp only at h
      split at h
      · rename_i listener conn cfg hhanded hfresh hidle
        cases hsession : sessionOf cfg conn with
        | error err =>
          rw [hsession] at h
          obtain rfl := Option.some.inj h
          exact .refuse i listener conn cfg err hhanded hfresh hidle hsession
        | ok session =>
          rw [hsession] at h
          obtain rfl := Option.some.inj h
          exact .enter i listener conn cfg session hhanded hfresh hidle hsession
      · cases h
    | route event =>
      dsimp only at h
      split at h
      · cases h
      · rename_i hlater
        obtain ⟨routing, hrouting, rfl⟩ := Option.map_eq_some_iff.mp h
        exact .route event routing (Bool.eq_false_iff.mpr hlater) hrouting
    | shutdown =>
      obtain rfl := Option.some.inj h
      exact .shutdown

end Run

end TgWsProxy.Source.Main
