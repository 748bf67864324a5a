import TgWsProxy.Guarantees.Admission
import TgWsProxy.Guarantees.Transparency

/-!
# From a client's octets to the server's

Seen from the sessions, a run of the process is a run of the sessions (`routing_run`), so
what holds of all their runs holds in the process. With the handshake in front and the
bridge behind: a connection's octets are its handshake and an obfuscated stream, and the
frames on the wire of its bridge hold that stream, the number of the data centre apart.
-/

set_option autoImplicit false

namespace TgWsProxy.Guarantees.EndToEnd
open Library Library.Io Library.Transition Source Source.Std Source.Socks Source.Config
open Source.Telegram Source.Ws Source.Main
open Source.Runtime (Net)
open Source.Routing (Session System Outcome WsKey runSystem)
open Source.Relay (Bridge Label Meters meteredStep bridgeResult)
open BridgeUpstream InitRouting SocksHandshake Admission Transparency

variable {Err : Type} (aes : Aes256)

/-- The steps of sessions that a step of the process is. -/
def routed (p : Process Err) (event : Event Err) : List Routing.Event :=
  match event with
  | .handshake i =>
    match p.server.handed[i]? with
    | some (_, conn, cfg) =>
      match sessionOf cfg conn with
      | .ok session => [.accept i session]
      | .error _ => []
    | none => []
  | .route event => [event]
  | .serve _ | .shutdown => []

theorem routed_step (p q : Process Err) (event : Event Err) (h : step aes p event = some q) :
    runSystem aes p.routing (routed p event) = some q.routing := by
  cases move_of_step aes p q event h with
  | serve event server moves | shutdown => rfl
  | refuse i listener conn cfg err handed fresh idle refused =>
    simp only [routed, handed, refused]
    rfl
  | enter i listener conn cfg session handed fresh idle admitted =>
    simp only [routed, handed, admitted]
    exact (run_cons_eq_some _ _ _ _ _).mpr ⟨_, by simp [Routing.step, idle], rfl⟩
  | route event routing later moves =>
    exact (run_cons_eq_some _ _ _ _ _).mpr ⟨routing, moves, rfl⟩

/-- Whatever the accept loops and handshakes do, the sessions make a run of their own. -/
theorem routing_run (net : Net Err) (config : CliConfig) (p₀ p : Process Err)
    (events : List (Event Err)) (started : start net config = .ok p₀)
    (ends : run (step aes) p₀ events = some p) :
    ∃ inner, runSystem aes Routing.boot inner = some p.routing := by
  have hboot : p₀.routing = Routing.boot := by
    unfold start at started
    cases hserver : Runtime.runServer net config with
    | error err =>
      rw [hserver] at started
      cases started
    | ok server =>
      rw [hserver] at started
      rw [← Except.ok.inj started]
  have hrun := run_component (step aes) (Routing.step aes) Process.routing routed
    (fun p event q hstep => routed_step aes p q event hstep) p₀ p events ends
  rw [hboot] at hrun
  exact ⟨_, hrun⟩

/-- Whatever the order of all the steps of the process: if a connection's session has come to
a bridge and the bridge returns without an error, the connection's octets are a handshake,
of a configured account if there are any, and an obfuscated stream, and the binary frames on
the bridge's wire hold that stream with its own key, IV, tag and text. Only the number may be
another, and it names the route if the tag is known. -/
theorem process_transparent (net : Net Err) (config : CliConfig) (p₀ p : Process Err)
    (events : List (Event Err)) (started : start net config = .ok p₀)
    (ends : run (step aes) p₀ events = some p) (i : Nat) (key : WsKey) (domain : String)
    (init : Bytes) (splitter : Option MtProtoMessageSplitter) (client : Bytes)
    (bridged : p.routing.tasks i = .ended (.bridge key domain init splitter client))
    (capacity : Nat) (random : Option MaskKey) (server : Bytes) (labels : List Label) (t : Bridge)
    (m report : Meters)
    (relayed : run (meteredStep aes capacity) (Relay.start random init splitter client server, .zero)
      labels = some (t, m))
    (ok : bridgeResult t m = some (.ok report)) :
    ∃ listener conn cfg target port handshake o number frames,
      p.server.handed[i]? = some (listener, conn, cfg) ∧ RoutedConfig.tryFrom config = .ok cfg ∧
      Handshake cfg.socksAuth target port handshake ∧
      conn.input = handshake ++ ObfuscatedStream.encode aes o ∧
      (o.withNumber number).encode aes = init ++ client ∧ Names aes init key.1 key.2 ∧
      readAll readFrame (t.wire.length + 1) ⟨t.wire, []⟩ = .ok frames ∧
      (binaryPayloads (frames.map Prod.fst)).flatten =
        ObfuscatedStream.encode aes (o.withNumber number) := by
  obtain ⟨cfg, hconfig, hplaced⟩ := run_placed aes net config p₀ p events started ends
  obtain ⟨inner, hinner⟩ := routing_run aes net config p₀ p events started ends
  have hnames := (bridge_names_dc aes p.routing inner hinner i key domain init splitter
    client bridged).1
  cases hi : p.server.handed[i]? with
  | none =>
    rw [(hplaced.unborn i hi).2] at bridged
    cases bridged
  | some entry =>
    obtain ⟨listener, conn, cfg'⟩ := entry
    obtain rfl : cfg' = cfg := hplaced.handed _ (List.mem_of_getElem? hi)
    have hexplained := place_explained aes cfg' conn _ _ (hplaced.place i listener conn cfg' hi)
    rw [bridged] at hexplained
    obtain ⟨session, timely, cache, table, now, connect, hsession, hroute⟩ := hexplained
    obtain ⟨target, handshake, hgrammar, hinput, -⟩ := (sessionOf_ok_iff cfg' conn session).mp hsession
    obtain ⟨hsize, o, o', hcarries⟩ := carries_of_route aes session timely cache table now connect
      key domain init splitter client hroute hnames
    obtain ⟨number, rfl⟩ := hcarries.same
    obtain ⟨frames, hread, hwire⟩ := wire_of_carried aes key init splitter client session o _ hsize
      hcarries capacity random server labels t m report relayed ok
    refine ⟨listener, conn, cfg', target, session.targetPort, handshake, o, number, frames, rfl,
      hconfig, hgrammar, ?_, hcarries.carried, hnames, hread, hwire⟩
    rw [hinput, hcarries.sent]

/-! ## A run of everything -/

/-- A client without an account whose packet names no data centre, with one message behind. -/
def namelessClient : Duplex :=
  ⟨[5, 1, 0] ++ [5, 1, 0, 1, 149, 154, 167, 220, 1, 187] ++ namelessSession.client, []⟩

def namelessEvents : List (Event AcceptLoops.AcceptError) :=
  [.serve (.accept 0 (.ok namelessClient)), .handshake 0, .route (.readInit 0 true),
    .route (.resolve 0), .route (.remember 0), .route (.sample 0), .route (.probe 0),
    .route (.finish 0 fun _ => none)]

theorem process_transparent_nameless :
    ∃ p₀ p splitter t m, start AcceptLoops.sampleNet CliConfig.default = .ok p₀ ∧
      run (step sampleAes) p₀ namelessEvents = some p ∧
      p.routing.tasks 0 = .ended (.bridge (2, false) "kws2.web.telegram.org"
        (patchInitDc sampleAes namelessInit 2) splitter [0x14, 0x53, 0x1B, 0xBD, 0xF8]) ∧
      run (meteredStep sampleAes 128) (Relay.start none (patchInitDc sampleAes namelessInit 2) splitter
        [0x14, 0x53, 0x1B, 0xBD, 0xF8] [], .zero) namelessLabels = some (t, m) ∧
      ∃ listener conn cfg target port handshake o number frames,
        p.server.handed[0]? = some (listener, conn, cfg) ∧
        RoutedConfig.tryFrom CliConfig.default = .ok cfg ∧
        Handshake cfg.socksAuth target port handshake ∧
        conn.input = handshake ++ ObfuscatedStream.encode sampleAes o ∧
        (o.withNumber number).encode sampleAes =
          patchInitDc sampleAes namelessInit 2 ++ [0x14, 0x53, 0x1B, 0xBD, 0xF8] ∧
        Names sampleAes (patchInitDc sampleAes namelessInit 2) 2 false ∧
        readAll readFrame (t.wire.length + 1) ⟨t.wire, []⟩ = .ok frames ∧
        (binaryPayloads (frames.map Prod.fst)).flatten =
          ObfuscatedStream.encode sampleAes (o.withNumber number) := by
  have hends : (match start AcceptLoops.sampleNet CliConfig.default with
      | .error _ => none
      | .ok p₀ => (run (step sampleAes) p₀ namelessEvents).bind fun p =>
          SessionOrder.outcome? (p.routing.tasks 0)) = some (.bridge (2, false) "kws2.web.telegram.org"
            (patchInitDc sampleAes namelessInit 2) (MtProtoMessageSplitter.new sampleAes namelessInit)
            [0x14, 0x53, 0x1B, 0xBD, 0xF8]) := by
    decide +kernel
  cases hstart : start AcceptLoops.sampleNet CliConfig.default with
  | error err =>
    rw [hstart] at hends
    cases hends
  | ok p₀ =>
    rw [hstart] at hends
    obtain ⟨p, hrun, houtcome⟩ := Option.bind_eq_some_iff.mp hends
    have hended := SessionOrder.ended_of_outcome (p.routing.tasks 0) _ houtcome
    have hbridge : ((run (meteredStep sampleAes 128) (Relay.start none
        (patchInitDc sampleAes namelessInit 2) (MtProtoMessageSplitter.new sampleAes namelessInit)
        [0x14, 0x53, 0x1B, 0xBD, 0xF8] [], .zero) namelessLabels).bind fun r => bridgeResult r.1 r.2) =
          some (.ok ⟨⟨5, 1, "client_eof"⟩, ⟨0, 0, "ws_eof"⟩⟩) := by
      decide +kernel
    obtain ⟨⟨t, m⟩, hrelayed, hok⟩ := Option.bind_eq_some_iff.mp hbridge
    exact ⟨p₀, p, _, t, m, rfl, hrun, hended, hrelayed, process_transparent sampleAes
      AcceptLoops.sampleNet CliConfig.default p₀ p namelessEvents hstart hrun 0 _ _ _ _ _ hended 128 none
      [] namelessLabels t m _ hrelayed hok⟩

end TgWsProxy.Guarantees.EndToEnd
