import TgWsProxy.Source.Routing

/-!
# The data centre that an init packet names

A session is routed by a pair of data centre and media flag, and the first frame
that the WebSocket endpoint receives is the init packet. A packet with one of the
three transport tags names that pair in its own encrypted field, if need be after
it has been patched (`resolved_names_dc`). Patching does not repair a tag: a packet
without one is patched from the learned or the static entry of its host all the
same, goes to that entry's endpoint, and still decrypts to no data centre there.

Both hold of every session of every run (`bridge_names_dc`), since what the cache
has learned stays between 1 and 5.
-/

set_option autoImplicit false

namespace TgWsProxy.Guarantees.InitRouting
open Library Library.Transition Source.Telegram Source.Ws Source.Routing

variable (aes : Aes256)

/-- The packet's header decrypts to one of the three transport tags. -/
def tagged (packet : Bytes) : Bool :=
  isTransportTag (headerProto ((decryptHeader aes packet).getD (List.replicate 8 0)))

/-- With a tag the packet decrypts to the pair, without one to no data centre. -/
def Names (packet : Bytes) (dc : UInt8) (isMedia : Bool) : Prop :=
  extractDc aes packet = if tagged aes packet then ⟨some dc, isMedia⟩ else ⟨none, false⟩

def KnownDc (dc : UInt8) : Prop := 1 ≤ dc ∧ dc ≤ 5

/-- Every learned entry is for one of the five data centres. -/
def Learned (cache : Ipv6Cache) : Prop :=
  ∀ ip entry, cache.entries ip = some entry → KnownDc entry.dc

/-- The entry that stands in for a packet's own data centre. -/
def hostEntry (cache : Ipv6Cache) (host : String) : Option TelegramIpEntry :=
  (cache.learnedIpv6Entry host).or (ipToDc host)

theorem hostEntry_known (cache : Ipv6Cache) (host : String) (entry : TelegramIpEntry)
    (learned : Learned cache) (h : hostEntry cache host = some entry) : KnownDc entry.dc := by
  rcases Option.or_eq_some_iff.mp h with hlearned | ⟨-, hstatic⟩
  · obtain ⟨ip, -, hentry⟩ := Option.bind_eq_some_iff.mp hlearned
    exact learned ip entry hentry
  · exact ipToDc_dc host entry hstatic

theorem tagged_eq (packet : Bytes) (h : 64 ≤ packet.length) :
    tagged aes packet = isTransportTag (headerProto (initHeader aes packet)) := by
  rw [tagged, decryptHeader_eq aes packet h, Option.getD_some]

theorem tagged_patchInitDc (packet : Bytes) (dc : Int16) (h : 64 ≤ packet.length) :
    tagged aes (patchInitDc aes packet dc) = tagged aes packet := by
  have hlen := patchInitDc_length aes packet dc h
  rw [tagged_eq aes _ (by omega), tagged_eq aes packet h, headerProto_patchInitDc aes packet dc h]

/-- A data centre that a packet names is a known one, and the packet has a tag. -/
theorem extractDc_some (packet : Bytes) (dc : UInt8) (h : 64 ≤ packet.length)
    (named : (extractDc aes packet).dc = some dc) : KnownDc dc ∧ tagged aes packet = true := by
  rw [tagged]
  unfold extractDc at named
  rw [if_neg (by omega)] at named
  dsimp only at named
  split at named
  · cases named
  · rename_i htag
    split at named
    · rename_i hknown
      obtain rfl := Option.some.inj named
      exact ⟨hknown, by simpa using htag⟩
    · cases named

/-- A patched packet names the entry that it was patched with. -/
theorem names_patchInitDc (packet : Bytes) (entry : TelegramIpEntry) (h : 64 ≤ packet.length)
    (known : KnownDc entry.dc) :
    Names aes (patchInitDc aes packet (signedDc entry)) entry.dc entry.isMedia := by
  have hlen := patchInitDc_length aes packet (signedDc entry) h
  have hdc := headerDc_patchInitDc aes packet (signedDc entry) h
  obtain ⟨hnarrow, hsign⟩ := narrowDc_signedDc entry known.1 known.2
  unfold Names
  cases htag : tagged aes (patchInitDc aes packet (signedDc entry)) with
  | true =>
    rw [tagged_eq aes _ (by omega)] at htag
    rw [extractDc_of_tagged aes _ (by omega) htag (by rw [hdc, hnarrow]; exact known), hdc, hnarrow,
      hsign]
    rfl
  | false =>
    rw [tagged_eq aes _ (by omega)] at htag
    rw [extractDc_of_untagged aes _ (by omega) htag]
    rfl

/-- What `resolve_telegram_init` makes of a packet: its own pair, or its host's entry. -/
theorem resolve_cases (cache : Ipv6Cache) (host : String) (packet : Bytes) (dc : UInt8)
    (h : (resolveTelegramInit aes cache host packet).info.dc = some dc) :
    ((extractDc aes packet).dc = some dc ∧
        resolveTelegramInit aes cache host packet = ⟨packet, extractDc aes packet, false⟩) ∨
      ∃ entry, (extractDc aes packet).dc = none ∧ hostEntry cache host = some entry ∧
        entry.dc = dc ∧ resolveTelegramInit aes cache host packet =
          ⟨patchInitDc aes packet (signedDc entry), ⟨some entry.dc, entry.isMedia⟩, true⟩ := by
  rcases resolve_spec aes cache host packet with
    ⟨own, -, hresolved⟩ | ⟨entry, hnone, hentry, hresolved⟩ | ⟨hnone, -, hresolved⟩
  · rw [hresolved] at h
    exact .inl ⟨h, hresolved⟩
  · rw [hresolved] at h
    exact .inr ⟨entry, hnone, hentry, Option.some.inj h, hresolved⟩
  · rw [hresolved, hnone] at h
    cases h

theorem resolve_names (cache : Ipv6Cache) (host : String) (packet : Bytes) (dc : UInt8)
    (learned : Learned cache) (h64 : 64 ≤ packet.length)
    (h : (resolveTelegramInit aes cache host packet).info.dc = some dc) :
    KnownDc dc ∧ Names aes (resolveTelegramInit aes cache host packet).packet dc
      (resolveTelegramInit aes cache host packet).info.isMedia := by
  rcases resolve_cases aes cache host packet dc h with
    ⟨hown, hresolved⟩ | ⟨entry, -, hentry, rfl, hresolved⟩
  · obtain ⟨hknown, htag⟩ := extractDc_some aes packet dc h64 hown
    rw [hresolved]
    refine ⟨hknown, ?_⟩
    unfold Names
    rw [htag, if_pos rfl, ← hown]
  · rw [hresolved]
    have hknown := hostEntry_known cache host entry learned hentry
    exact ⟨hknown, names_patchInitDc aes packet entry h64 hknown⟩

/-! ## Runs -/

/-- What holds of a session between its init packet and its end. -/
def Task.Named : Task → Prop
  | .resolving _ initPacket => initPacket.length = 64
  | .remembering _ resolved => ∀ dc, resolved.info.dc = some dc →
      KnownDc dc ∧ Names aes resolved.packet dc resolved.info.isMedia
  | .sampling _ resolved key | .probing _ resolved key _ | .connecting _ resolved key _ =>
      Names aes resolved.packet key.1 key.2
  | .ended (.bridge key domain init _ _) => Names aes init key.1 key.2 ∧ domain ∈ wsDomains key.1 key.2
  | _ => True

structure Sound (s : System) : Prop where
  learned : Learned s.cache
  named : ∀ i, Task.Named aes (s.tasks i)

theorem boot_sound : Sound aes boot where
  learned := by
    intro ip entry h
    cases h
  named := fun _ => trivial

theorem put_sound (s : System) (cache : Ipv6Cache) (table : WsBackoff) (i : Nat) (task : Task)
    (learned : Learned cache) (named : Task.Named aes task) (sound : Sound aes s) :
    Sound aes ({ s with cache := cache, table := table }.put i task) where
  learned := learned
  named := put_forall (fun _ => Task.Named aes) { s with cache := cache, table := table } i task named
    sound.named

theorem remember_learned (cache : Ipv6Cache) (host : String) (v6 : Bool) (info : TelegramInitInfo)
    (learned : Learned cache) (known : ∀ dc, info.dc = some dc → KnownDc dc) :
    Learned (rememberTelegramIpv6 cache host v6 info) := by
  intro ip entry hentry
  rcases entry_of_remember cache host v6 info ip entry hentry with hbefore | ⟨-, hdc, -⟩
  · exact learned ip entry hbefore
  · exact known entry.dc hdc

/-- The connection that a route ends up with is to one of its domains. -/
theorem connectDomains_mem (connect : String → Option WsError) (domains : List String)
    (all404 : Bool) (domain : String)
    (h : (connectDomains connect domains all404).client = some domain) : domain ∈ domains := by
  induction domains generalizing all404 with
  | nil => cases h
  | cons first domains ih =>
    unfold connectDomains at h
    split at h
    · obtain rfl := Option.some.inj h
      exact List.mem_cons_self
    · exact List.mem_cons_of_mem first (ih _ h)

theorem openSession_named (session : Session) (timely : Bool) :
    Task.Named aes (settle (openSession session timely) fun (session, initPacket) =>
      .resolving session initPacket) := by
  apply settle_openSession (Task.Named aes) (fun _ => trivial) session timely fun _ _ _ _ => trivial
  intro _ hfull
  show (session.client.take 64).length = 64
  rw [List.length_take]
  omega

theorem selectRoute_named (session : Session) (resolved : ResolvedTelegramInit)
    (named : Task.Named aes (.remembering session resolved)) :
    Task.Named aes (settle (selectRoute session resolved) fun key =>
      .sampling session resolved key) := by
  apply settle_selectRoute (Task.Named aes) (fun _ => trivial) session resolved fun _ _ _ _ => trivial
  intro dc hdc
  exact (named dc hdc).2

theorem afterAttempt_named (session : Session) (resolved : ResolvedTelegramInit) (key : WsKey)
    (now : Instant) (connect : String → Option WsError)
    (named : Task.Named aes (.connecting session resolved key now)) :
    Task.Named aes (.ended (afterAttempt aes session resolved key
      (connectWsRoute connect key.1 key.2))) := by
  apply ended_afterAttempt aes (Task.Named aes) fun _ => trivial
  intro domain hclient
  exact ⟨named, connectDomains_mem connect _ true domain hclient⟩

theorem sound_step (s t : System) (event : Event) (sound : Sound aes s)
    (h : step aes s event = some t) : Sound aes t := by
  cases resumption_of_step aes s t event h with
  | tick elapsed => exact ⟨sound.learned, sound.named⟩
  | accept i session at_point =>
    exact put_sound aes s s.cache s.table i _ sound.learned trivial sound
  | readInit i timely session at_point =>
    exact put_sound aes s s.cache s.table i _ sound.learned (openSession_named aes session timely) sound
  | resolve i session initPacket at_point =>
    have hnamed : Task.Named aes (.resolving session initPacket) := at_point ▸ sound.named i
    apply put_sound aes s s.cache s.table i _ sound.learned ?_ sound
    intro dc hdc
    exact resolve_names aes s.cache session.targetHost initPacket dc sound.learned
      (Nat.le_of_eq hnamed.symm) hdc
  | remember i session resolved at_point =>
    have hnamed : Task.Named aes (.remembering session resolved) := at_point ▸ sound.named i
    apply put_sound aes s _ s.table i _ ?_ (selectRoute_named aes session resolved hnamed) sound
    exact remember_learned s.cache _ _ resolved.info sound.learned fun dc hdc => (hnamed dc hdc).1
  | sample i session resolved key at_point =>
    have hnamed : Task.Named aes (.sampling session resolved key) := at_point ▸ sound.named i
    exact put_sound aes s s.cache s.table i _ sound.learned hnamed sound
  | probe i session resolved key now at_point =>
    have hnamed : Task.Named aes (.probing session resolved key now) := at_point ▸ sound.named i
    exact put_sound aes s s.cache _ i _ sound.learned
      (settle_checkDecision (Task.Named aes) (fun _ => trivial) session resolved key now _ hnamed) sound
  | finish i connect session resolved key now at_point =>
    have hnamed : Task.Named aes (.connecting session resolved key now) := at_point ▸ sound.named i
    exact put_sound aes s s.cache _ i _ sound.learned
      (afterAttempt_named aes session resolved key now connect hnamed) sound

theorem run_sound (s : System) (events : List Event) (reached : runSystem aes boot events = some s) :
    Sound aes s :=
  run_invariant_of_step (step aes) (Sound aes) (fun s event t => sound_step aes s t event) boot s
    events (boot_sound aes) reached

/-- In every run, the init packet that a bridge opens with names the pair that chose
its domain, if it names any. -/
theorem bridge_names_dc (s : System) (events : List Event)
    (reached : runSystem aes boot events = some s) (i : Nat) (key : WsKey) (domain : String)
    (init : Bytes) (splitter : Option MtProtoMessageSplitter) (client : Bytes)
    (bridged : s.tasks i = .ended (.bridge key domain init splitter client)) :
    Names aes init key.1 key.2 ∧ domain ∈ wsDomains key.1 key.2 := by
  have hnamed := (run_sound aes s events reached).named i
  rw [bridged] at hnamed
  exact hnamed

/-- In every reachable state, a packet that is resolved to a data centre decrypts to
that data centre and its media flag when the client's packet carried a transport
tag. When it did not, the packet is that of the host's entry, and decrypts to none. -/
theorem resolved_names_dc (s : System) (events : List Event)
    (reached : runSystem aes boot events = some s) (host : String) (packet : Bytes)
    (h64 : packet.length = 64) (dc : UInt8)
    (h : (resolveTelegramInit aes s.cache host packet).info.dc = some dc) :
    extractDc aes (resolveTelegramInit aes s.cache host packet).packet =
        (if tagged aes packet then
          ⟨some dc, (resolveTelegramInit aes s.cache host packet).info.isMedia⟩
        else ⟨none, false⟩) ∧
      (tagged aes packet = false → ∃ entry, hostEntry s.cache host = some entry ∧
        resolveTelegramInit aes s.cache host packet =
          ⟨patchInitDc aes packet (signedDc entry), ⟨some entry.dc, entry.isMedia⟩, true⟩) := by
  have hlearned := (run_sound aes s events reached).learned
  have hnames := (resolve_names aes s.cache host packet dc hlearned (by omega) h).2
  unfold Names at hnames
  rcases resolve_cases aes s.cache host packet dc h with
    ⟨hown, hresolved⟩ | ⟨entry, -, hentry, rfl, hresolved⟩
  · obtain ⟨-, htag⟩ := extractDc_some aes packet dc (by omega) hown
    rw [hresolved] at hnames ⊢
    refine ⟨hnames, ?_⟩
    intro huntagged
    rw [htag] at huntagged
    cases huntagged
  · rw [hresolved] at hnames ⊢
    rw [tagged_patchInitDc aes packet _ (by omega)] at hnames
    exact ⟨hnames, fun _ => ⟨entry, hentry, rfl⟩⟩

/-- A tagged packet whose field is zero. -/
def namelessInit : Bytes := patchInitDc sampleAes (sampleInit [0xEF, 0xEF, 0xEF, 0xEF]) 0

/-- A session to an IPv6 host whose packet names the media servers of data centre 4. -/
def namedSession : Session :=
  ⟨"2001:67c:4e8::1", 443, patchInitDc sampleAes (sampleInit [0xEF, 0xEF, 0xEF, 0xEF]) (-4)⟩

def namedRun : List Event := [.accept 0 namedSession, .readInit 0 true, .resolve 0, .remember 0]

/-- The next packet to that host, in another spelling, is patched from what was learned. -/
theorem resolved_names_dc_learned :
    ∃ s, runSystem sampleAes boot namedRun = some s ∧
      s.cache.learnedIpv6Entry "2001:67c:4e8:0::1" = some ⟨4, true⟩ ∧
      (resolveTelegramInit sampleAes s.cache "2001:67c:4e8:0::1" namelessInit).patched = true ∧
      extractDc sampleAes
          (resolveTelegramInit sampleAes s.cache "2001:67c:4e8:0::1" namelessInit).packet =
        ⟨some 4, true⟩ := by
  have hend : (runSystem sampleAes boot namedRun).map (fun s =>
      (s.cache.learnedIpv6Entry "2001:67c:4e8:0::1",
        (resolveTelegramInit sampleAes s.cache "2001:67c:4e8:0::1" namelessInit).patched,
        (resolveTelegramInit sampleAes s.cache "2001:67c:4e8:0::1" namelessInit).info)) =
      some (some ⟨4, true⟩, true, ⟨some 4, true⟩) := by
    decide +kernel
  obtain ⟨s, hrun, heq⟩ := Option.map_eq_some_iff.mp hend
  obtain ⟨hentry, hrest⟩ := Prod.mk.inj heq
  obtain ⟨hpatched, hinfo⟩ := Prod.mk.inj hrest
  have htag : tagged sampleAes namelessInit = true := by decide
  have hnames := (resolved_names_dc sampleAes s namedRun hrun "2001:67c:4e8:0::1" namelessInit
    (by decide) 4 (by rw [hinfo])).1
  rw [htag, if_pos rfl, hinfo] at hnames
  exact ⟨s, hrun, hentry, hpatched, hnames⟩

/-- A packet without a tag, sent to an address of the static table: it is patched and
routed to DC 2, and names no data centre. -/
theorem untagged_init_is_routed :
    (sampleInit [0, 0, 0, 0]).length = 64 ∧
      (resolveTelegramInit sampleAes boot.cache "149.154.167.220" (sampleInit [0, 0, 0, 0])).info =
        ⟨some 2, false⟩ ∧
      extractDc sampleAes (resolveTelegramInit sampleAes boot.cache "149.154.167.220"
        (sampleInit [0, 0, 0, 0])).packet = ⟨none, false⟩ := by
  decide +kernel

end TgWsProxy.Guarantees.InitRouting
