import TgWsProxy.Guarantees.BridgeSummary
import TgWsProxy.Guarantees.InitRouting
import TgWsProxy.Guarantees.PlainTcp
import TgWsProxy.Guarantees.SessionOrder
import TgWsProxy.Library.ObfuscatedStream

/-!
# What the server understands

A client's stream to Telegram carries its own key, and everything behind the init packet
is text under that key (`ObfuscatedStream`). The proxy reads the packet, may patch its data
centre, cuts the rest into frames and sends it all through a WebSocket.

The server that puts the frames together again reads the stream of the client, key, tag and
text, with at most the number of the data centre replaced (`session_transparent`). The
splitter decrypts what the server will.
-/

set_option autoImplicit false

namespace TgWsProxy.Guarantees.Transparency
open Library Library.Io Library.Transition Source.Telegram Source.Ws Source.Relay
open Source.Routing hiding step
open BridgeUpstream InitRouting

variable (aes : Aes256)

/-! ## Patching -/

theorem take_extract (bs : Bytes) (i j : Nat) (h : j ≤ 64) : (bs.take 64).extract i j = bs.extract i j := by
  rw [List.extract_eq_take_drop, List.extract_eq_take_drop, List.drop_take, List.take_take]
  congr 1
  omega

/-- A packet is patched the same with the rest of its stream behind it. -/
theorem patchInitDc_take (stream : Bytes) (dc : Int16) (long : 64 ≤ stream.length) :
    patchInitDc aes (stream.take 64) dc ++ stream.drop 64 = patchInitDc aes stream dc := by
  have hsize : (stream.take 64).length = 64 := List.length_take_of_le long
  have hpatched := patchInitDc_length aes (stream.take 64) dc (by omega)
  apply List.ext_getElem?
  intro i
  by_cases hi : i < 64
  · rw [List.getElem?_append_left (by omega), patchInitDc_getElem? aes _ dc (by omega),
      patchInitDc_getElem? aes stream dc long, take_extract stream 8 40 (by omega),
      take_extract stream 40 56 (by omega), List.getElem?_take_of_lt hi]
  · rw [List.getElem?_append_right (by omega), hpatched, hsize, List.getElem?_drop,
      patchInitDc_getElem? aes stream dc long, if_neg (by omega), if_neg (by omega),
      Nat.add_sub_cancel' (Nat.not_lt.mp hi)]

/-- `patch_init_dc` writes the number of the stream that the packet opens. -/
theorem patchInitDc_encode (o : ObfuscatedStream) (dc : Int16) :
    patchInitDc aes (o.encode aes) dc = (o.withNumber dc.toUInt16).encode aes := by
  have hlong : 64 ≤ (o.encode aes).length := by rw [o.encode_length]; omega
  have htake : ((o.encode aes).take 60).length = 60 := List.length_take_of_le (by omega)
  have hfield : (mask (aes o.key o.iv) 60 (toLE 2 dc.toUInt16.toNat)).length = 2 := by simp
  rw [o.encode_withNumber]
  apply List.ext_getElem?
  intro i
  rw [patchInitDc_getElem? aes _ dc hlong, o.encode_extract_key, o.encode_extract_iv]
  by_cases h60 : i < 60
  · rw [List.append_assoc, List.getElem?_append_left (by omega), List.getElem?_take_of_lt h60,
      if_neg (by omega), if_neg (by omega)]
  by_cases h62 : i < 62
  · rw [List.getElem?_append_left (by simp [htake]; omega), List.getElem?_append_right (by omega), htake,
      mask_getElem?]
    obtain rfl | rfl : i = 60 ∨ i = 61 := by omega
    · simp [toLE, UInt8.xor_comm]
    · simp [toLE, UInt8.xor_comm]
  · rw [List.getElem?_append_right (by simp [htake]; omega), List.length_append, htake, hfield,
      List.getElem?_drop, Nat.add_sub_cancel' (Nat.not_lt.mp h62), if_neg (by omega), if_neg (by omega)]

/-- The splitter of a packet starts at the stream's text. -/
theorem splitter_encode (o : ObfuscatedStream) :
    MtProtoMessageSplitter.new aes (o.encode aes) = some ⟨⟨o.key, o.iv, 64⟩⟩ := by
  have hlong : ¬ (o.encode aes).length < 64 := by rw [o.encode_length]; omega
  rw [MtProtoMessageSplitter.new, if_neg hlong, o.encode_extract_key, o.encode_extract_iv,
    Aes256Ctr.newFromSlices, if_pos ⟨o.key_size, o.iv_size⟩]
  simp [Aes256Ctr.applyKeystream]

theorem splitter_take (stream : Bytes) (long : 64 ≤ stream.length) :
    MtProtoMessageSplitter.new aes (stream.take 64) = MtProtoMessageSplitter.new aes stream := by
  rw [MtProtoMessageSplitter.new, MtProtoMessageSplitter.new, if_neg (by simp; omega), if_neg (by omega),
    take_extract stream 8 40 (by omega), take_extract stream 40 56 (by omega)]

theorem text_of_encode (o : ObfuscatedStream) :
    mask (aes o.key o.iv) 64 ((o.encode aes).drop 64) = o.text := by
  have hsecret := congrArg (List.drop 8) (o.encode_secret aes)
  rwa [mask_drop, List.drop_drop, o.secret_text] at hsecret

/-! ## A session that gets a bridge -/

/-- What a bridge is given comes from the session's own stream. -/
theorem routeClient_eq_bridge (session : Session) (timely : Bool) (cache : Ipv6Cache)
    (table : WsBackoff) (now : Instant) (connect : String → Option WsError) (key : WsKey)
    (domain : String) (init : Bytes) (splitter : Option MtProtoMessageSplitter) (client : Bytes)
    (h : routeClient aes session timely cache table now connect =
      .bridge key domain init splitter client) :
    64 ≤ session.client.length ∧ client = session.client.drop 64 ∧
      init = (resolveTelegramInit aes cache session.targetHost (session.client.take 64)).packet ∧
      splitter = MtProtoMessageSplitter.new aes init := by
  rw [routeClient_eq] at h
  cases hopen : openSession session timely with
  | error outcome =>
    rw [hopen] at h
    dsimp only at h
    subst h
    unfold openSession at hopen
    split_ifs at hopen <;> cases hopen
  | ok opened =>
    obtain ⟨-, -, hlong, hrest, hinit⟩ :=
      PlainTcp.openSession_eq_ok session opened.1 timely opened.2 hopen
    rw [hopen] at h
    dsimp only at h
    rw [hrest, hinit] at h
    dsimp only at h
    split at h
    · rename_i outcome hselect
      subst h
      unfold selectRoute handleUnknownDc at hselect
      split at hselect
      · cases hselect
      · split at hselect
        · split at hselect <;> cases hselect
        · cases hselect
    · split at h
      · rename_i outcome hcheck
        subst h
        unfold checkDecision at hcheck
        split at hcheck <;> cases hcheck
      · unfold afterAttempt at h
        split at h
        · obtain ⟨-, -, rfl, rfl, rfl⟩ := Outcome.bridge.inj h
          exact ⟨hlong, rfl, rfl, rfl⟩
        · cases h

/-- What the bridge sends opens as the client's stream, up to the number. -/
theorem resolved_encode (cache : Ipv6Cache) (host : String) (o : ObfuscatedStream) :
    ∃ number, (resolveTelegramInit aes cache host ((o.encode aes).take 64)).packet ++
      (o.encode aes).drop 64 = (o.withNumber number).encode aes := by
  have hlong : 64 ≤ (o.encode aes).length := by rw [o.encode_length]; omega
  rcases resolve_spec aes cache host ((o.encode aes).take 64) with
    ⟨dc, -, hresolved⟩ | ⟨entry, -, -, hresolved⟩ | ⟨-, -, hresolved⟩
  · exact ⟨o.number, by rw [hresolved, List.take_append_drop]; rfl⟩
  · refine ⟨(signedDc entry).toUInt16, ?_⟩
    rw [hresolved, patchInitDc_take aes _ _ hlong, patchInitDc_encode]
  · exact ⟨o.number, by rw [hresolved, List.take_append_drop]; rfl⟩

/-- The client's stream, and the one that the server is to read. -/
structure Carries (session : Session) (key : WsKey) (init : Bytes)
    (splitter : Option MtProtoMessageSplitter) (client : Bytes) (o o' : ObfuscatedStream) : Prop where
  sent : o.encode aes = session.client
  carried : o'.encode aes = init ++ client
  same : ∃ number, o' = o.withNumber number
  names : Names aes init key.1 key.2
  splits : ∃ cipher, splitter = some ⟨cipher⟩ ∧ (cipher.applyKeystream aes client).1 = o.text

theorem carries_of_route (session : Session) (timely : Bool) (cache : Ipv6Cache) (table : WsBackoff)
    (now : Instant) (connect : String → Option WsError) (key : WsKey) (domain : String) (init : Bytes)
    (splitter : Option MtProtoMessageSplitter) (client : Bytes)
    (route : .bridge key domain init splitter client =
      routeClient aes session timely cache table now connect)
    (names : Names aes init key.1 key.2) :
    init.length = 64 ∧ ∃ o o', Carries aes session key init splitter client o o' := by
  obtain ⟨hlong, hclient, hinit, hsplitter⟩ := routeClient_eq_bridge aes session timely cache table now connect
    key domain init splitter client route.symm
  obtain ⟨o, hsent, -⟩ := ObfuscatedStream.exists_unique_encode aes session.client hlong
  obtain ⟨number, hcarried⟩ := resolved_encode aes cache session.targetHost o
  rw [hsent, ← hinit, ← hclient] at hcarried
  have hsize : init.length = 64 := by
    have hwhole := congrArg List.length hcarried
    have hown := congrArg List.length hsent
    rw [ObfuscatedStream.encode_length] at hwhole hown
    rw [List.length_append, hclient, List.length_drop] at hwhole
    have htext : (o.withNumber number).text = o.text := rfl
    rw [htext] at hwhole
    omega
  have htake : init = ((o.withNumber number).encode aes).take 64 := by
    rw [← hcarried, List.take_left' hsize]
  have hown : splitter = some ⟨⟨o.key, o.iv, 64⟩⟩ := by
    rw [hsplitter, htake, splitter_take aes _ (by rw [ObfuscatedStream.encode_length]; omega), splitter_encode]
    rfl
  refine ⟨hsize, o, o.withNumber number, hsent, hcarried.symm, ⟨number, rfl⟩, names, _, hown, ?_⟩
  show mask (aes o.key o.iv) 64 client = o.text
  rw [hclient, ← hsent, text_of_encode]

theorem bridge_carries (s : System) (events : List Event) (reached : runSystem aes boot events = some s)
    (i : Nat) (key : WsKey) (domain : String) (init : Bytes)
    (splitter : Option MtProtoMessageSplitter) (client : Bytes)
    (bridged : s.tasks i = .ended (.bridge key domain init splitter client)) :
    init.length = 64 ∧ ∃ session o o', .accept i session ∈ events ∧
      Carries aes session key init splitter client o o' := by
  obtain ⟨session, timely, cache, table, now, connect, haccepted, houtcome⟩ :=
    Sessions.ended_eq_routeClient aes s events reached i _ bridged
  have hnames := (bridge_names_dc aes s events reached i key domain init splitter client bridged).1
  obtain ⟨hsize, o, o', hcarries⟩ :=
    carries_of_route aes session timely cache table now connect key domain init splitter client houtcome hnames
  exact ⟨hsize, session, o, o', haccepted, hcarries⟩

/-- What a bridge that returns without an error has put on its wire. -/
theorem wire_of_carried (key : WsKey) (init : Bytes) (splitter : Option MtProtoMessageSplitter)
    (client : Bytes) (session : Session) (o o' : ObfuscatedStream) (size : init.length = 64)
    (carries : Carries aes session key init splitter client o o') (capacity : Nat)
    (random : Option MaskKey) (server : Bytes) (labels : List Label) (t : Bridge) (m report : Meters)
    (ends : run (meteredStep aes capacity) (start random init splitter client server, .zero) labels =
      some (t, m)) (ok : bridgeResult t m = some (.ok report)) :
    ∃ frames, readAll readFrame (t.wire.length + 1) ⟨t.wire, []⟩ = .ok frames ∧
      (binaryPayloads (frames.map Prod.fst)).flatten = o'.encode aes := by
  obtain ⟨hup, hdown, -⟩ := BridgeSummary.ended_of_result t m report ok
  have hrun := BridgeSummary.runBridge_of_metered aes capacity _ t _ m labels ends
  obtain ⟨frames, rest, -, hread, -, hpayloads, -, -⟩ :=
    BridgeSummary.relayed_of_done aes capacity random init splitter client server labels t
      (by rw [size]; decide) hrun hup hdown
  exact ⟨frames, hread, by rw [hpayloads, carries.carried]⟩

/-- In every interleaving of sessions, and of the two tasks of the bridge that one of them has come
to: once that bridge returns without an error, the binary frames on its wire hold the stream of
the session's client under the client's key, IV and tag and with the client's text, the number
being one that names the route if the tag is known. -/
theorem session_transparent (s : System) (events : List Event)
    (reached : runSystem aes boot events = some s) (i : Nat) (key : WsKey) (domain : String)
    (init : Bytes) (splitter : Option MtProtoMessageSplitter) (client : Bytes)
    (bridged : s.tasks i = .ended (.bridge key domain init splitter client)) (capacity : Nat)
    (random : Option MaskKey) (server : Bytes) (labels : List Label) (t : Bridge) (m report : Meters)
    (ends : run (meteredStep aes capacity) (start random init splitter client server, .zero) labels =
      some (t, m)) (ok : bridgeResult t m = some (.ok report)) :
    ∃ session o o' frames, .accept i session ∈ events ∧
      Carries aes session key init splitter client o o' ∧
      readAll readFrame (t.wire.length + 1) ⟨t.wire, []⟩ = .ok frames ∧
      (binaryPayloads (frames.map Prod.fst)).flatten = o'.encode aes := by
  obtain ⟨hsize, session, o, o', haccepted, hcarries⟩ :=
    bridge_carries aes s events reached i key domain init splitter client bridged
  obtain ⟨frames, hread, hwire⟩ := wire_of_carried aes key init splitter client session o o' hsize hcarries
    capacity random server labels t m report ends ok
  exact ⟨session, o, o', frames, haccepted, hcarries, hread, hwire⟩

/-- The packet names no data centre, and is patched from its host's entry; one message follows. -/
def namelessSession : Session :=
  ⟨"149.154.167.220", 443, namelessInit ++ [0x14, 0x53, 0x1B, 0xBD, 0xF8]⟩

def namelessRun : List Event :=
  [.accept 0 namelessSession, .readInit 0 true, .resolve 0, .remember 0, .sample 0, .probe 0,
    .finish 0 fun _ => none]

def namelessLabels : List Label :=
  [.upWrite 70, .upRelease, .upRead 5, .upLock, .upSend none, .upWrite 11, .upRelease, .downReceive, .upEof,
    .upLock, .upClose, .downShutdown]

theorem session_transparent_patched :
    ∃ s splitter t m, runSystem sampleAes boot namelessRun = some s ∧
      s.tasks 0 = .ended (.bridge (2, false) "kws2.web.telegram.org" (patchInitDc sampleAes namelessInit 2)
        splitter [0x14, 0x53, 0x1B, 0xBD, 0xF8]) ∧
      run (meteredStep sampleAes 128) (start none (patchInitDc sampleAes namelessInit 2) splitter
        [0x14, 0x53, 0x1B, 0xBD, 0xF8] [], .zero) namelessLabels = some (t, m) ∧
      ∃ session o o' frames, .accept 0 session ∈ namelessRun ∧
        Carries sampleAes session (2, false) (patchInitDc sampleAes namelessInit 2) splitter
          [0x14, 0x53, 0x1B, 0xBD, 0xF8] o o' ∧
        readAll readFrame (t.wire.length + 1) ⟨t.wire, []⟩ = .ok frames ∧
        (binaryPayloads (frames.map Prod.fst)).flatten = o'.encode sampleAes := by
  have hsession : ((runSystem sampleAes boot namelessRun).bind fun s =>
      SessionOrder.outcome? (s.tasks 0)) = some (.bridge (2, false) "kws2.web.telegram.org"
        (patchInitDc sampleAes namelessInit 2) (MtProtoMessageSplitter.new sampleAes namelessInit)
        [0x14, 0x53, 0x1B, 0xBD, 0xF8]) := by
    decide +kernel
  obtain ⟨s, hrun, houtcome⟩ := Option.bind_eq_some_iff.mp hsession
  have hended := SessionOrder.ended_of_outcome (s.tasks 0) _ houtcome
  have hbridge : ((run (meteredStep sampleAes 128) (start none (patchInitDc sampleAes namelessInit 2)
      (MtProtoMessageSplitter.new sampleAes namelessInit) [0x14, 0x53, 0x1B, 0xBD, 0xF8] [], .zero)
      namelessLabels).bind fun r => bridgeResult r.1 r.2) =
        some (.ok ⟨⟨5, 1, "client_eof"⟩, ⟨0, 0, "ws_eof"⟩⟩) := by
    decide +kernel
  obtain ⟨⟨t, m⟩, hends, hok⟩ := Option.bind_eq_some_iff.mp hbridge
  exact ⟨s, _, t, m, hrun, hended, hends, session_transparent sampleAes s namelessRun hrun 0 _ _ _ _ _ hended
    128 none [] namelessLabels t m _ hends hok⟩

end TgWsProxy.Guarantees.Transparency
