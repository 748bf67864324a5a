import Mathlib.Data.Set.Card
import TgWsProxy.Guarantees.InitRouting
import TgWsProxy.Source.Std.IpAddrText

/-!
# Only real data centres are routed and remembered

A data centre reaches the cache, the back-off table and `ws_domains` along one
path: the init packet, or else the entry of its host, names it. Packets and the
static table name 1 to 5 only, and so does the cache, which earlier sessions
filled in the same way. The three are one invariant of the system (`KnownOnly`,
beside `Sound`), kept by every step and so true of every reachable state
(`only_real_dcs`).
-/

set_option autoImplicit false

namespace TgWsProxy.Guarantees.RealDcs
open Library.Transition Source.Std Source.Telegram Source.Ws Source.Routing InitRouting

def InTelegramIpv6Ranges (ip : Ipv6Addr) : Prop :=
  ∃ row ∈ tgIpv6Ranges, ipv6ToU128 row.1 ≤ ip.toU128 ∧ ip.toU128 ≤ ipv6ToU128 row.2

theorem inRanges_of_telegram (host : String) (ip : Ipv6Addr) (telegram : isTelegramIp host = true)
    (h : Ipv6Addr.fromStr host = some ip) : InTelegramIpv6Ranges ip := by
  unfold isTelegramIp at telegram
  rw [IpAddr.fromStr_of_ipv6 host ip h] at telegram
  simpa [InTelegramIpv6Ranges] using telegram

/-! ## The keys of the back-off table -/

def Keyed (table : WsBackoff) : Prop :=
  ∀ key state, table.states key = some state → KnownDc key.1

theorem keyed_insert (table : WsBackoff) (key : WsKey) (state : WsState) (known : KnownDc key.1)
    (keyed : Keyed table) : Keyed (table.insert key state) := by
  intro other found h
  by_cases hother : other = key
  · rw [hother]
    exact known
  · rw [WsBackoff.insert_of_ne table key other state hother] at h
    exact keyed other found h

theorem keyed_clear (table : WsBackoff) (key : WsKey) (keyed : Keyed table) :
    Keyed (table.clear key) := by
  intro other found h
  by_cases hother : other = key
  · rw [hother, WsBackoff.clear_self] at h
    cases h
  · rw [WsBackoff.clear_of_ne table key other hother] at h
    exact keyed other found h

theorem keyed_retain (table : WsBackoff) (now : Instant) (keyed : Keyed table) :
    Keyed (table.retain now) := by
  intro key found h
  rw [WsBackoff.retain_states, Option.filter_eq_some_iff] at h
  exact keyed key found h.1

theorem keyed_beginProbe (table : WsBackoff) (key : WsKey) (now : Instant) (known : KnownDc key.1)
    (keyed : Keyed table) : Keyed (table.beginProbe key now).2 := by
  have hkept := keyed_retain table now keyed
  unfold WsBackoff.beginProbe
  dsimp only
  split
  · exact hkept
  · exact hkept
  · exact hkept
  · exact keyed_insert _ key _ known hkept

theorem keyed_closeAttempt (table : WsBackoff) (key : WsKey) (now : Instant)
    (attempt : WsConnectAttempt) (known : KnownDc key.1) (keyed : Keyed table) :
    Keyed (closeAttempt table key now attempt) := by
  unfold closeAttempt
  split
  · exact keyed_clear table key keyed
  · split
    · exact keyed_insert table key _ known keyed
    · exact keyed_insert table key _ known keyed

/-- The five data centres, each with and without the media flag. -/
def knownKeys : List WsKey := [1, 2, 3, 4, 5].flatMap fun dc => [(dc, false), (dc, true)]

theorem mem_knownKeys (key : WsKey) (known : KnownDc key.1) : key ∈ knownKeys := by
  obtain ⟨dc, isMedia⟩ := key
  have hdc : dc ∈ ([1, 2, 3, 4, 5] : List UInt8) := by
    have hlow := UInt8.le_iff_toNat_le.mp known.1
    have hhigh := UInt8.le_iff_toNat_le.mp known.2
    simp only [List.mem_cons, List.not_mem_nil, or_false, ← UInt8.toNat_inj]
    simp at hlow hhigh ⊢
    omega
  exact List.mem_flatMap.mpr ⟨dc, hdc, by cases isMedia <;> simp⟩

theorem keyed_at_most_ten (table : WsBackoff) (keyed : Keyed table) :
    {key | table.states key ≠ none}.encard ≤ 10 := by
  have hsub : {key | table.states key ≠ none} ⊆ ↑knownKeys.toFinset := by
    intro key h
    obtain ⟨state, hstate⟩ := Option.ne_none_iff_exists'.mp h
    simpa using mem_knownKeys key (keyed key state hstate)
  calc {key | table.states key ≠ none}.encard
      ≤ (↑knownKeys.toFinset : Set WsKey).encard := Set.encard_le_encard hsub
    _ = knownKeys.toFinset.card := Set.encard_coe_eq_coe_finsetCard _
    _ = 10 := by rw [show knownKeys.toFinset.card = 10 by decide]; rfl

/-! ## The learned cache -/

def Cached (cache : Ipv6Cache) : Prop :=
  ∀ ip entry, cache.entries ip = some entry → InTelegramIpv6Ranges ip

theorem cached_remember (cache : Ipv6Cache) (host : String) (v6 : Bool) (info : TelegramInitInfo)
    (telegram : isTelegramIp host = true) (cached : Cached cache) :
    Cached (rememberTelegramIpv6 cache host v6 info) := by
  intro ip entry hentry
  rcases entry_of_remember cache host v6 info ip entry hentry with hbefore | ⟨hparse, -, -⟩
  · exact cached ip entry hbefore
  · exact inRanges_of_telegram host ip telegram hparse

/-! ## Runs -/

/-- A host is one of Telegram's until its address is recorded, a key is one of a
known data centre from there to the end. -/
def Task.KnownOnly : Task → Prop
  | .resolving session _ | .remembering session _ => isTelegramIp session.targetHost = true
  | .sampling _ _ key | .probing _ _ key _ | .connecting _ _ key _
  | .ended (.bridge key _ _ _ _) => KnownDc key.1
  | _ => True

structure KnownOnly (s : System) : Prop where
  cached : Cached s.cache
  keyed : Keyed s.table
  tasks : ∀ i, Task.KnownOnly (s.tasks i)

theorem boot_knownOnly : KnownOnly boot where
  cached := by
    intro ip entry h
    cases h
  keyed := by
    intro key state h
    cases h
  tasks := fun _ => trivial

theorem put_knownOnly (s : System) (cache : Ipv6Cache) (table : WsBackoff) (i : Nat) (task : Task)
    (cached : Cached cache) (keyed : Keyed table) (put : Task.KnownOnly task) (known : KnownOnly s) :
    KnownOnly ({ s with cache := cache, table := table }.put i task) where
  cached := cached
  keyed := keyed
  tasks := put_forall (fun _ => Task.KnownOnly) { s with cache := cache, table := table } i task put
    known.tasks

theorem knownOnly_step (aes : Aes256) (s t : System) (event : Event) (sound : Sound aes s)
    (known : KnownOnly s) (h : step aes s event = some t) : KnownOnly t := by
  cases resumption_of_step aes s t event h with
  | tick elapsed => exact ⟨known.cached, known.keyed, known.tasks⟩
  | accept i session at_point =>
    exact put_knownOnly s s.cache s.table i _ known.cached known.keyed trivial known
  | readInit i timely session at_point =>
    refine put_knownOnly s s.cache s.table i _ known.cached known.keyed ?_ known
    apply settle_openSession Task.KnownOnly (fun _ => trivial) session timely fun _ _ _ _ => trivial
    intro htelegram _
    exact htelegram
  | resolve i session initPacket at_point =>
    have htask : Task.KnownOnly (.resolving session initPacket) := at_point ▸ known.tasks i
    exact put_knownOnly s s.cache s.table i _ known.cached known.keyed htask known
  | remember i session resolved at_point =>
    have htask : Task.KnownOnly (.remembering session resolved) := at_point ▸ known.tasks i
    have hnamed : Task.Named aes (.remembering session resolved) := at_point ▸ sound.named i
    have hcached := cached_remember s.cache _ (Source.Socks.isIpv6 session.targetHost) resolved.info
      htask known.cached
    refine put_knownOnly s _ s.table i _ hcached known.keyed ?_ known
    apply settle_selectRoute Task.KnownOnly (fun _ => trivial) session resolved fun _ _ _ _ => trivial
    intro dc hdc
    exact (hnamed dc hdc).1
  | sample i session resolved key at_point =>
    have htask : Task.KnownOnly (.sampling session resolved key) := at_point ▸ known.tasks i
    exact put_knownOnly s s.cache s.table i _ known.cached known.keyed htask known
  | probe i session resolved key now at_point =>
    have htask : Task.KnownOnly (.probing session resolved key now) := at_point ▸ known.tasks i
    have hkeyed := keyed_beginProbe s.table key now htask known.keyed
    refine put_knownOnly s s.cache _ i _ known.cached hkeyed ?_ known
    exact settle_checkDecision Task.KnownOnly (fun _ => trivial) session resolved key now _ htask
  | finish i connect session resolved key now at_point =>
    have htask : Task.KnownOnly (.connecting session resolved key now) := at_point ▸ known.tasks i
    have hkeyed := keyed_closeAttempt s.table key now (connectWsRoute connect key.1 key.2) htask
      known.keyed
    refine put_knownOnly s s.cache _ i _ known.cached hkeyed ?_ known
    exact ended_afterAttempt aes Task.KnownOnly (fun _ => trivial) session resolved key _
      fun _ _ => htask

theorem run_knownOnly (aes : Aes256) (s : System) (events : List Event)
    (reached : runSystem aes boot events = some s) : Sound aes s ∧ KnownOnly s := by
  apply run_invariant_of_step (step aes) (fun s => Sound aes s ∧ KnownOnly s) ?_ boot s events
    ⟨boot_sound aes, boot_knownOnly⟩ reached
  intro s event t both h
  exact ⟨sound_step aes s t event both.1 h, knownOnly_step aes s t event both.1 both.2 h⟩

/-- The arguments with which `ws_domains` is called: its one caller is
`connect_ws_route`, which runs while a session is connecting. -/
def wsDomainsCalls (s : System) : Set WsKey :=
  {key | ∃ i session resolved now, s.tasks i = .connecting session resolved key now}

/-- In every reachable state of any number of sessions: what the cache holds is a known
data centre for an address in Telegram's IPv6 ranges, the table has at most the ten keys
of known data centres, and `ws_domains` is called for these alone. -/
theorem only_real_dcs (aes : Aes256) (s : System) (events : List Event)
    (reached : runSystem aes boot events = some s) :
    (∀ ip entry, s.cache.entries ip = some entry → InTelegramIpv6Ranges ip ∧ KnownDc entry.dc) ∧
    (∀ key state, s.table.states key = some state → KnownDc key.1) ∧
    {key | s.table.states key ≠ none}.encard ≤ 10 ∧
    ∀ key ∈ wsDomainsCalls s, KnownDc key.1 := by
  have hboth := run_knownOnly aes s events reached
  refine ⟨?_, hboth.2.keyed, keyed_at_most_ten s.table hboth.2.keyed, ?_⟩
  · intro ip entry h
    exact ⟨hboth.2.cached ip entry h, hboth.1.learned ip entry h⟩
  · intro key hcall
    obtain ⟨i, session, resolved, now, hconnecting⟩ := hcall
    have htask := hboth.2.tasks i
    rw [hconnecting] at htask
    exact htask

/-- A session to an IPv6 host that is remembered and opens an attempt. -/
def learningRun : List Event :=
  [.accept 0 ⟨"2001:67c:4e8::1", 443, sampleInit [0xEF, 0xEF, 0xEF, 0xEF]⟩, .readInit 0 true,
    .resolve 0, .remember 0, .sample 0, .probe 0]

theorem only_real_dcs_learned :
    ∃ s, runSystem sampleAes boot learningRun = some s ∧ s.table.states (2, false) ≠ none ∧
      (∀ ip entry, s.cache.entries ip = some entry → InTelegramIpv6Ranges ip ∧ KnownDc entry.dc) ∧
      (∀ key state, s.table.states key = some state → KnownDc key.1) ∧
      {key | s.table.states key ≠ none}.encard ≤ 10 ∧
      ∀ key ∈ wsDomainsCalls s, KnownDc key.1 := by
  have hend : (runSystem sampleAes boot learningRun).map (fun s => s.table.states (2, false)) =
      some (some (.probing wsAttemptWindow)) := by decide +kernel
  obtain ⟨s, hrun, hprobing⟩ := Option.map_eq_some_iff.mp hend
  exact ⟨s, hrun, by rw [hprobing]; simp, only_real_dcs sampleAes s learningRun hrun⟩

end TgWsProxy.Guarantees.RealDcs
