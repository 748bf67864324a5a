import TgWsProxy.Guarantees.Sessions
import TgWsProxy.Source.Std.IpAddrText

/-!
# When traffic goes out as plain TCP

A session ends in a plain connection in two cases only: its target is not a
Telegram address, or it is a Telegram IPv6 literal whose init packet was read in
full, is no HTTP request and names no data centre after resolution. It is opened to
the session's target, and the remote receives the client's stream; in the second
case the packet leaves as the client sent it, ahead of the rest of the stream
(`plain_tcp_iff`). An IPv4 address of Telegram's is therefore never connected to
in plain TCP, and neither is it in any run of many sessions (`run_plain_tcp`).

The source tells an IPv6 target by a colon in its text; `IpAddr.colon_iff` says
that this agrees with the family of the address that the text parses to.
-/

set_option autoImplicit false

namespace TgWsProxy.Guarantees.PlainTcp
open Library Library.Transition Source.Std Source.Telegram Source.Ws Source.Routing
open Source.Relay (Network TcpBridge CopiesFaithfully bridgeTcpTcp bridgeTcpTcpWithPrelude bridge_refused
  bridge_connected)

variable (aes : Aes256)

/-- A Telegram IPv6 literal and an init packet that leaves the data centre unknown. -/
structure UnknownIpv6 (session : Session) (timely : Bool) (cache : Ipv6Cache) : Prop where
  telegram : isTelegramIp session.targetHost = true
  ipv6 : ∃ ip, IpAddr.fromStr session.targetHost = some (.v6 ip)
  inTime : timely = true
  full : 64 ≤ session.client.length
  notHttp : isHttpTransport (session.client.take 64) = false
  unresolved :
    (resolveTelegramInit aes cache session.targetHost (session.client.take 64)).info.dc = none

theorem isTelegramIp_parses (host : String) (h : isTelegramIp host = true) :
    ∃ ip, IpAddr.fromStr host = some ip := by
  unfold isTelegramIp at h
  split at h
  · rename_i ip hparse
    exact ⟨_, hparse⟩
  · rename_i ip hparse
    exact ⟨_, hparse⟩
  · cases h

/-- The colon test agrees with the address family. -/
theorem isIpv6_iff (host : String) (h : isTelegramIp host = true) :
    Source.Socks.isIpv6 host = true ↔ ∃ ip, IpAddr.fromStr host = some (.v6 ip) := by
  obtain ⟨ip, hparse⟩ := isTelegramIp_parses host h
  rw [Source.Socks.isIpv6, List.contains_iff_mem, IpAddr.colon_iff host ip hparse, hparse]
  simp only [Option.some.injEq]

/-- A packet that stays unresolved is not patched. -/
theorem packet_of_unresolved (cache : Ipv6Cache) (host : String) (packet : Bytes)
    (h : (resolveTelegramInit aes cache host packet).info.dc = none) :
    (resolveTelegramInit aes cache host packet).packet = packet := by
  rcases resolve_spec aes cache host packet with
    ⟨own, -, hresolved⟩ | ⟨entry, -, -, hresolved⟩ | ⟨-, -, hresolved⟩
  · rw [hresolved]
  · rw [hresolved] at h
    cases h
  · rw [hresolved]

/-! ## One session -/

/-- The packet that opens a session and what is left of it. -/
theorem openSession_eq_ok (session rest : Session) (timely : Bool) (initPacket : Bytes)
    (h : openSession session timely = .ok (rest, initPacket)) :
    isTelegramIp session.targetHost = true ∧ timely = true ∧ 64 ≤ session.client.length ∧
      rest = { session with client := session.client.drop 64 } ∧
      initPacket = session.client.take 64 := by
  unfold openSession at h
  split at h
  · cases h
  · rename_i htelegram
    split at h
    · cases h
    · rename_i htimely
      split at h
      · cases h
      · rename_i hfull
        obtain ⟨rfl, rfl⟩ := Prod.mk.inj (Except.ok.inj h)
        exact ⟨by simpa using htelegram, by simpa using htimely, Nat.not_lt.mp hfull, rfl, rfl⟩

theorem openSession_eq_tcp (session : Session) (timely : Bool) (host : String) (port : UInt16)
    (prelude client : Bytes) :
    openSession session timely = .error (.tcp host port prelude client) ↔
      isTelegramIp session.targetHost = false ∧ host = session.targetHost ∧
        port = session.targetPort ∧ prelude = [] ∧ client = session.client := by
  unfold openSession
  cases isTelegramIp session.targetHost with
  | false =>
    simp only [Bool.not_false, if_true, Except.error.injEq, Outcome.tcp.injEq, true_and]
    grind
  | true =>
    simp only [Bool.not_true, Bool.false_eq_true, if_false, Bool.true_eq_false, false_and, iff_false]
    intro h
    split at h
    · cases h
    · split at h <;> cases h

theorem selectRoute_eq_tcp (session : Session) (resolved : ResolvedTelegramInit) (host : String)
    (port : UInt16) (prelude client : Bytes) :
    selectRoute session resolved = .error (.tcp host port prelude client) ↔
      isHttpTransport resolved.packet = false ∧ resolved.info.dc = none ∧
        Source.Socks.isIpv6 session.targetHost = true ∧ host = session.targetHost ∧
        port = session.targetPort ∧ prelude = resolved.packet ∧ client = session.client := by
  unfold selectRoute handleUnknownDc unknownDcAction
  cases isHttpTransport resolved.packet with
  | true => simp
  | false =>
    cases resolved.info.dc with
    | some dc => simp
    | none =>
      cases Source.Socks.isIpv6 session.targetHost with
      | true =>
        simp only [Bool.false_eq_true, if_false, if_true, Except.error.injEq, Outcome.tcp.injEq, true_and]
        grind
      | false => simp

/-- Past the choice of its route a session never goes out as plain TCP. -/
theorem no_tcp_past_route (rest : Session) (resolved : ResolvedTelegramInit) (key : WsKey)
    (decision : WsDecision) (attempt : WsConnectAttempt) (host : String) (port : UInt16)
    (prelude client : Bytes) :
    (match checkDecision decision with
      | .error outcome => outcome
      | .ok () => afterAttempt aes rest resolved key attempt) ≠ .tcp host port prelude client := by
  have hattempt : afterAttempt aes rest resolved key attempt ≠ .tcp host port prelude client := by
    unfold afterAttempt
    split <;> exact Outcome.noConfusion
  cases decision with
  | probeNow | probeInFlight => exact hattempt
  | cooldown | disabled404 => exact Outcome.noConfusion

/-- Once the init packet has been read, the route is plain TCP for an unresolved packet
of an IPv6 target only. -/
theorem selectRoute_eq_tcp_iff_unknown (session : Session) (cache : Ipv6Cache) (host : String)
    (port : UInt16) (prelude client : Bytes) (telegram : isTelegramIp session.targetHost = true)
    (full : 64 ≤ session.client.length) :
    selectRoute { session with client := session.client.drop 64 }
        (resolveTelegramInit aes cache session.targetHost (session.client.take 64)) =
      .error (.tcp host port prelude client) ↔
    host = session.targetHost ∧ port = session.targetPort ∧ UnknownIpv6 aes session true cache ∧
      prelude = session.client.take 64 ∧ client = session.client.drop 64 := by
  have hpacket := packet_of_unresolved aes cache session.targetHost (session.client.take 64)
  rw [selectRoute_eq_tcp]
  dsimp only
  rw [isIpv6_iff session.targetHost telegram]
  constructor
  · intro ⟨hhttp, hnone, hipv6, hhost, hport, hprelude, hclient⟩
    rw [hpacket hnone] at hhttp hprelude
    exact ⟨hhost, hport, ⟨telegram, hipv6, rfl, full, hhttp, hnone⟩, hprelude, hclient⟩
  · intro ⟨hhost, hport, hunknown, hprelude, hclient⟩
    rw [hpacket hunknown.unresolved]
    exact ⟨hunknown.notHttp, hunknown.unresolved, hunknown.ipv6, hhost, hport, hprelude, hclient⟩

/-- The two ways to a plain connection, with all that it is given. -/
theorem routeClient_eq_tcp_iff (session : Session) (timely : Bool) (cache : Ipv6Cache)
    (table : WsBackoff) (now : Instant) (connect : String → Option WsError) (host : String)
    (port : UInt16) (prelude client : Bytes) :
    routeClient aes session timely cache table now connect = .tcp host port prelude client ↔
      host = session.targetHost ∧ port = session.targetPort ∧
        (isTelegramIp session.targetHost = false ∧ prelude = [] ∧ client = session.client ∨
          UnknownIpv6 aes session timely cache ∧ prelude = session.client.take 64 ∧
            client = session.client.drop 64) := by
  have htcp := openSession_eq_tcp session timely host port prelude client
  rw [routeClient_eq]
  cases hopen : openSession session timely with
  | error outcome =>
    rw [hopen, Except.error.injEq] at htcp
    dsimp only
    rw [htcp]
    constructor
    · intro ⟨helsewhere, hhost, hport, hprelude, hclient⟩
      exact ⟨hhost, hport, .inl ⟨helsewhere, hprelude, hclient⟩⟩
    · intro ⟨hhost, hport, hcase⟩
      rcases hcase with ⟨helsewhere, hprelude, hclient⟩ | ⟨hunknown, -, -⟩
      · exact ⟨helsewhere, hhost, hport, hprelude, hclient⟩
      · -- a full packet in time would have been read
        rw [openSession, hunknown.telegram, hunknown.inTime] at hopen
        simp [Nat.not_lt.mpr hunknown.full] at hopen
  | ok opened =>
    obtain ⟨htelegram, rfl, hfull, hrest, hinit⟩ := openSession_eq_ok session opened.1 timely opened.2 hopen
    have hroute := selectRoute_eq_tcp_iff_unknown aes session cache host port prelude client htelegram hfull
    dsimp only
    rw [hrest, hinit]
    dsimp only
    cases hselect : selectRoute { session with client := session.client.drop 64 }
        (resolveTelegramInit aes cache session.targetHost (session.client.take 64)) with
    | error outcome =>
      rw [hselect, Except.error.injEq] at hroute
      dsimp only
      rw [hroute, htelegram]
      simp
    | ok key =>
      rw [hselect] at hroute
      dsimp only
      constructor
      · intro h
        exact absurd h (no_tcp_past_route aes _ _ key _ _ host port prelude client)
      · intro ⟨hhost, hport, hcase⟩
        rcases hcase with ⟨helsewhere, -, -⟩ | hunknown
        · rw [htelegram] at helsewhere
          cases helsewhere
        · cases hroute.mpr ⟨hhost, hport, hunknown⟩

/-- The plain connection that a session opens, if it opens one, and how it ends. -/
def connection (net : Network) (session : Session) (timely : Bool) (cache : Ipv6Cache)
    (table : WsBackoff) (now : Instant) (connect : String → Option WsError) (replies : Bytes) :
    Option TcpBridge :=
  (routeClient aes session timely cache table now connect).connectTcp net replies

theorem connection_isSome_iff (net : Network) (session : Session) (timely : Bool) (cache : Ipv6Cache)
    (table : WsBackoff) (now : Instant) (connect : String → Option WsError) (replies : Bytes) :
    (connection aes net session timely cache table now connect replies).isSome = true ↔
      isTelegramIp session.targetHost = false ∨ UnknownIpv6 aes session timely cache := by
  have htcp := routeClient_eq_tcp_iff aes session timely cache table now connect
  unfold connection
  constructor
  · intro h
    cases hroute : routeClient aes session timely cache table now connect with
    | tcp host port prelude client =>
      obtain ⟨-, -, hcase⟩ := (htcp host port prelude client).mp hroute
      rcases hcase with ⟨helsewhere, -, -⟩ | ⟨hunknown, -, -⟩
      · exact .inl helsewhere
      · exact .inr hunknown
    | bridge key domain init splitter client | closed why =>
      rw [hroute] at h
      cases h
  · intro h
    rcases h with helsewhere | hunknown
    · rw [(htcp _ _ _ _).mpr ⟨rfl, rfl, .inl ⟨helsewhere, rfl, rfl⟩⟩]
      rfl
    · rw [(htcp _ _ _ _).mpr ⟨rfl, rfl, .inr ⟨hunknown, rfl, rfl⟩⟩]
      rfl

/-- What the bridge of a session comes to, with `prelude` to send ahead and `client` still to
be read. The target alone is connected to: the error of a refused attempt is the result, and a
remote that is reached receives the client's stream, up to an error of the copy. -/
structure ReachesTarget (net : Network) (session : Session) (prelude client replies : Bytes)
    (bridge : TcpBridge) : Prop where
  refused : ∀ err, net.connect session.targetHost session.targetPort = .error err →
    bridge = ⟨.error err, ⟨client, replies⟩, none⟩
  connected : ∀ sends, net.connect session.targetHost session.targetPort = .ok sends →
    ∃ remote, bridge.remote = some remote ∧
      net.copyBidirectional ⟨client, replies⟩ ⟨sends, prelude⟩ =
        (bridge.result, bridge.client, remote) ∧
      remote.output <+: session.client ∧ (bridge.result = .ok () → remote.output = session.client)

theorem bridge_reachesTarget (net : Network) (faithful : CopiesFaithfully net.copyBidirectional)
    (session : Session) (prelude client replies : Bytes) (whole : prelude ++ client = session.client) :
    ReachesTarget net session prelude client replies (bridgeTcpTcpWithPrelude net ⟨client, replies⟩
      session.targetHost session.targetPort prelude) where
  refused := fun err hrefused => bridge_refused net _ _ _ prelude err hrefused
  connected := by
    intro sends hconnected
    obtain ⟨remote, hremote, hcopied⟩ := bridge_connected net ⟨client, replies⟩ _ _ prelude sends hconnected
    have hpart := faithful.upstream ⟨client, replies⟩ ⟨sends, prelude⟩
    have hwhole := faithful.upstreamWhole ⟨client, replies⟩ ⟨sends, prelude⟩
    rw [hcopied] at hpart hwhole
    dsimp only at hpart hwhole
    rw [whole] at hpart hwhole
    exact ⟨remote, hremote, hcopied, hpart, hwhole⟩

/-- A target that is not Telegram's is connected to at once. -/
theorem elsewhere_connects (net : Network) (faithful : CopiesFaithfully net.copyBidirectional)
    (session : Session) (timely : Bool) (cache : Ipv6Cache) (table : WsBackoff) (now : Instant)
    (connect : String → Option WsError) (replies : Bytes)
    (elsewhere : isTelegramIp session.targetHost = false) :
    ∃ bridge, connection aes net session timely cache table now connect replies = some bridge ∧
      bridge = bridgeTcpTcp net ⟨session.client, replies⟩ session.targetHost session.targetPort ∧
      ReachesTarget net session [] session.client replies bridge := by
  have hroute := (routeClient_eq_tcp_iff aes session timely cache table now connect _ _ _ _).mpr
    ⟨rfl, rfl, .inl ⟨elsewhere, rfl, rfl⟩⟩
  refine ⟨_, ?_, rfl, bridge_reachesTarget net faithful session [] session.client replies rfl⟩
  rw [connection, hroute, Outcome.connectTcp]
  rfl

/-- The init packet goes out ahead of the rest of the client's stream. -/
theorem unknown_ipv6_connects (net : Network) (faithful : CopiesFaithfully net.copyBidirectional)
    (session : Session) (timely : Bool) (cache : Ipv6Cache) (table : WsBackoff) (now : Instant)
    (connect : String → Option WsError) (replies : Bytes) (unknown : UnknownIpv6 aes session timely cache) :
    ∃ bridge, connection aes net session timely cache table now connect replies = some bridge ∧
      bridge = bridgeTcpTcpWithPrelude net ⟨session.client.drop 64, replies⟩ session.targetHost
        session.targetPort (session.client.take 64) ∧
      ReachesTarget net session (session.client.take 64) (session.client.drop 64) replies bridge := by
  have hroute := (routeClient_eq_tcp_iff aes session timely cache table now connect _ _ _ _).mpr
    ⟨rfl, rfl, .inr ⟨unknown, rfl, rfl⟩⟩
  exact ⟨_, by rw [connection, hroute, Outcome.connectTcp], rfl,
    bridge_reachesTarget net faithful session _ _ replies (List.take_append_drop 64 session.client)⟩

/-- The text of an IPv4 address is no IPv6 literal. -/
theorem not_unknown_ipv4 (session : Session) (timely : Bool) (cache : Ipv6Cache) (ip : Ipv4Addr)
    (v4 : IpAddr.fromStr session.targetHost = some (.v4 ip)) : ¬ UnknownIpv6 aes session timely cache := by
  intro hunknown
  obtain ⟨ip', hv6⟩ := hunknown.ipv6
  rw [v4] at hv6
  cases hv6

/-! ## Runs -/

/-- In a run of many sessions too, plain TCP goes to the target of an accepted session,
with that session's stream, in one of the two cases. -/
theorem run_plain_tcp (s : System) (events : List Event)
    (reached : runSystem aes boot events = some s) (i : Nat) (host : String) (port : UInt16)
    (prelude client : Bytes) (ended : s.tasks i = .ended (.tcp host port prelude client)) :
    ∃ session, .accept i session ∈ events ∧ host = session.targetHost ∧ port = session.targetPort ∧
      prelude ++ client = session.client ∧
      (isTelegramIp host = false ∨ ∃ timely cache, UnknownIpv6 aes session timely cache) := by
  obtain ⟨session, timely, cache, table, now, connect, haccepted, houtcome⟩ :=
    Sessions.ended_eq_routeClient aes s events reached i _ ended
  obtain ⟨rfl, rfl, hcase⟩ :=
    (routeClient_eq_tcp_iff aes session timely cache table now connect host port prelude client).mp
      houtcome.symm
  refine ⟨session, haccepted, rfl, rfl, ?_⟩
  rcases hcase with ⟨helsewhere, rfl, rfl⟩ | ⟨hunknown, rfl, rfl⟩
  · exact ⟨rfl, .inl helsewhere⟩
  · exact ⟨List.take_append_drop 64 _, .inr ⟨timely, cache, hunknown⟩⟩

/-- A session opens a plain connection exactly if its target is not Telegram's, or is
an IPv6 literal of Telegram's with an init packet that stays unresolved. It is opened to
the session's own target, and the remote receives the client's stream, in the second case
init packet included. No session to an IPv4 address of Telegram's opens one, and none does
in a run of many sessions. -/
theorem plain_tcp_iff (net : Network) (faithful : CopiesFaithfully net.copyBidirectional)
    (session : Session) (timely : Bool) (cache : Ipv6Cache) (table : WsBackoff) (now : Instant)
    (connect : String → Option WsError) (replies : Bytes) :
    ((connection aes net session timely cache table now connect replies).isSome = true ↔
      isTelegramIp session.targetHost = false ∨ UnknownIpv6 aes session timely cache) ∧
    (isTelegramIp session.targetHost = false →
      ∃ bridge, connection aes net session timely cache table now connect replies = some bridge ∧
        bridge = bridgeTcpTcp net ⟨session.client, replies⟩ session.targetHost session.targetPort ∧
        ReachesTarget net session [] session.client replies bridge) ∧
    (UnknownIpv6 aes session timely cache →
      ∃ bridge, connection aes net session timely cache table now connect replies = some bridge ∧
        bridge = bridgeTcpTcpWithPrelude net ⟨session.client.drop 64, replies⟩ session.targetHost
          session.targetPort (session.client.take 64) ∧
        ReachesTarget net session (session.client.take 64) (session.client.drop 64) replies bridge) ∧
    ((∃ ip, IpAddr.fromStr session.targetHost = some (.v4 ip)) →
      isTelegramIp session.targetHost = true →
      connection aes net session timely cache table now connect replies = none) ∧
    ∀ events s, runSystem aes boot events = some s → ∀ i host port prelude client,
      s.tasks i = .ended (.tcp host port prelude client) →
      (∃ ip, IpAddr.fromStr host = some (.v4 ip)) → isTelegramIp host = false := by
  have hsome := connection_isSome_iff aes net session timely cache table now connect replies
  refine ⟨hsome, ?_, ?_, ?_, ?_⟩
  · exact elsewhere_connects aes net faithful session timely cache table now connect replies
  · exact unknown_ipv6_connects aes net faithful session timely cache table now connect replies
  · intro ⟨ip, hv4⟩ htelegram
    apply Option.not_isSome_iff_eq_none.mp
    intro h
    rcases hsome.mp h with helsewhere | hunknown
    · rw [htelegram] at helsewhere
      cases helsewhere
    · exact not_unknown_ipv4 aes session timely cache ip hv4 hunknown
  · intro events s reached i host port prelude client ended ⟨ip, hv4⟩
    obtain ⟨session', -, rfl, -, -, hcase⟩ :=
      run_plain_tcp aes s events reached i host port prelude client ended
    rcases hcase with helsewhere | ⟨timely', cache', hunknown⟩
    · exact helsewhere
    · exact absurd hunknown (not_unknown_ipv4 aes session' timely' cache' ip hv4)

/-- A network whose remotes say nothing and that copies everything. -/
def sampleNetwork : Network where
  connect := fun _ _ => .ok []
  copyBidirectional := fun client remote =>
    (.ok (), ⟨[], client.output ++ remote.input⟩, ⟨[], remote.output ++ client.input⟩)

/-- An IPv6 literal of Telegram's, and a packet of zeros with six octets behind it. -/
def zeroSession : Session := ⟨"2001:67c:4e8::1", 443, List.replicate 70 0⟩

theorem zeroSession_unknown : UnknownIpv6 sampleAes zeroSession true .empty where
  telegram := by decide +kernel
  ipv6 := ⟨⟨[0x2001, 0x67c, 0x4e8, 0, 0, 0, 0, 1], rfl⟩, by decide +kernel⟩
  inTime := rfl
  full := by decide
  notHttp := by decide +kernel
  unresolved := by decide +kernel

theorem plain_tcp_iff_ipv6 :
    ∃ bridge remote,
      connection sampleAes sampleNetwork zeroSession true .empty .empty 0 (fun _ => none) [] =
        some bridge ∧
      bridge.remote = some remote ∧ remote.output <+: List.replicate 70 0 ∧
      (bridge.result = .ok () → remote.output = List.replicate 70 0) := by
  obtain ⟨-, -, hunknown, -, -⟩ := plain_tcp_iff sampleAes sampleNetwork
    ⟨fun _ _ => List.prefix_rfl, fun _ _ _ => rfl⟩ zeroSession true .empty .empty 0 (fun _ => none) []
  obtain ⟨bridge, hopened, -, hreaches⟩ := hunknown zeroSession_unknown
  obtain ⟨remote, hremote, -, hreceived⟩ := hreaches.connected [] rfl
  exact ⟨bridge, remote, hopened, hremote, hreceived⟩

end TgWsProxy.Guarantees.PlainTcp
