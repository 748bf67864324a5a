import TgWsProxy.Guarantees.InitRouting
import TgWsProxy.Source.Std.IpAddrText

/-!
# What the IPv6 cache has learned

Resolving an init packet reads the cache and recording the result writes it, as two
steps of a session. A session whose own packet names a data centre records what it
extracted. A session whose packet names none records what it read, and that write
can come after a newer extraction, which is then lost.

`latestFrom` is the pair most recently recorded by a session with a packet of its own
for each address. In a run the cache agrees with it at every point exactly if every
session that records what it read does so while the cache still holds it
(`learned_is_latest_iff`).
-/

set_option autoImplicit false

namespace TgWsProxy.Guarantees.Ipv6Learning
open Library Library.Transition Source.Std Source.Telegram Source.Ws Source.Routing InitRouting

abbrev Entries := Ipv6Addr → Option TelegramIpEntry

variable (aes : Aes256)

/-- The session that an event records, and the address it is recorded for. -/
def recording (s : System) (event : Event) : Option (Ipv6Addr × ResolvedTelegramInit) :=
  match event with
  | .remember i =>
    match s.tasks i with
    | .remembering session resolved =>
      (Ipv6Addr.fromStr session.targetHost).map fun ip => (ip, resolved)
    | _ => none
  | _ => none

/-- The pair that a packet names. -/
def entryOf (info : TelegramInitInfo) : Option TelegramIpEntry :=
  info.dc.map fun dc => ⟨dc, info.isMedia⟩

/-- The pair extracted from a session's own packet. -/
def ownEntry (resolved : ResolvedTelegramInit) : Option TelegramIpEntry :=
  if resolved.patched then none else entryOf (extractDc aes resolved.packet)

/-- The extractions recorded so far, after one more event. -/
def record (latest : Entries) (s : System) (event : Event) : Entries :=
  match recording s event with
  | some (ip, resolved) =>
    match ownEntry aes resolved with
    | some entry => Function.update latest ip (some entry)
    | none => latest
  | none => latest

/-- The pair most recently extracted for each address, along a run. -/
def latestFrom (latest : Entries) (s : System) : List Event → Entries
  | [] => latest
  | event :: events =>
    match step aes s event with
    | some t => latestFrom (record aes latest s event) t events
    | none => latest

/-- A session that records what it has read finds it unchanged. -/
def ReadStillHeld (s : System) (event : Event) : Prop :=
  match recording s event with
  | some (ip, resolved) => resolved.patched = true →
      ∀ entry ∈ entryOf resolved.info, s.cache.entries ip = some entry
  | none => True

instance (s : System) (event : Event) : Decidable (ReadStillHeld s event) := by
  unfold ReadStillHeld
  split <;> infer_instance

/-- What the cache holds is the latest extraction, and it is where an init packet without
a data centre is routed, in every spelling of the address. -/
def HoldsLatest (latest : Entries) (s : System) : Prop :=
  ∀ ip, s.cache.entries ip = latest ip ∧
    ∀ host packet, Ipv6Addr.fromStr host = some ip → (extractDc aes packet).dc = none →
      entryOf (resolveTelegramInit aes s.cache host packet).info = latest ip

/-! ## One step -/

/-- A session that records an unpatched packet goes by what the packet names. -/
def GoesByPacket (task : Task) : Prop :=
  match task with
  | .remembering _ resolved =>
    resolved.patched = false → resolved.info = extractDc aes resolved.packet
  | _ => True

theorem resolve_unpatched (cache : Ipv6Cache) (host : String) (packet : Bytes)
    (h : (resolveTelegramInit aes cache host packet).patched = false) :
    (resolveTelegramInit aes cache host packet).info =
      extractDc aes (resolveTelegramInit aes cache host packet).packet := by
  rcases resolve_spec aes cache host packet with
    ⟨own, -, hresolved⟩ | ⟨entry, -, -, hresolved⟩ | ⟨-, -, hresolved⟩
  · rw [hresolved]
  · rw [hresolved] at h
    cases h
  · rw [hresolved]

theorem settle_goesByPacket {α : Type} (stage : Except Outcome α) (next : α → Task)
    (goes : ∀ a, GoesByPacket aes (next a)) : GoesByPacket aes (settle stage next) := by
  cases stage with
  | ok a => exact goes a
  | error outcome => trivial

theorem goesByPacket_step (s t : System) (event : Event)
    (goes : ∀ i, GoesByPacket aes (s.tasks i)) (h : step aes s event = some t) (j : Nat) :
    GoesByPacket aes (t.tasks j) := by
  cases resumption_of_step aes s t event h with
  | tick elapsed => exact goes j
  | accept i session at_point | sample i session resolved key at_point
  | finish i connect session resolved key now at_point =>
    refine put_forall (fun _ => GoesByPacket aes) _ i _ ?_ goes j
    trivial
  | resolve i session initPacket at_point =>
    refine put_forall (fun _ => GoesByPacket aes) s i _ ?_ goes j
    exact resolve_unpatched aes s.cache session.targetHost initPacket
  | readInit i timely session at_point | remember i session resolved at_point
  | probe i session resolved key now at_point =>
    refine put_forall (fun _ => GoesByPacket aes) _ i _ ?_ goes j
    apply settle_goesByPacket
    intro a
    trivial

theorem remember_entries (cache : Ipv6Cache) (host : String) (info : TelegramInitInfo) :
    (rememberTelegramIpv6 cache host (Source.Socks.isIpv6 host) info).entries =
      match Ipv6Addr.fromStr host, entryOf info with
      | some ip, some entry => Function.update cache.entries ip (some entry)
      | _, _ => cache.entries := by
  unfold rememberTelegramIpv6 entryOf Ipv6Cache.rememberIpv6Entry
  cases hparse : Ipv6Addr.fromStr host with
  | none =>
    cases info.dc with
    | none => split <;> rfl
    | some dc => split <;> rfl
  | some ip =>
    have hcolon : Source.Socks.isIpv6 host = true :=
      List.contains_iff_mem.mpr (Ipv6Addr.colon_of_fromStr host ip hparse)
    rw [if_pos hcolon]
    cases info.dc with
    | none => rfl
    | some dc => rfl

/-- Only recording writes the cache, and it writes the pair that the session goes by. -/
theorem step_entries (s t : System) (event : Event) (h : step aes s event = some t) :
    t.cache.entries =
      match recording s event with
      | some (ip, resolved) =>
        match entryOf resolved.info with
        | some entry => Function.update s.cache.entries ip (some entry)
        | none => s.cache.entries
      | none => s.cache.entries := by
  cases resumption_of_step aes s t event h with
  | accept | readInit | resolve | sample | probe | finish | tick => rfl
  | remember i session resolved at_point =>
    have hentries := remember_entries s.cache session.targetHost resolved.info
    simp only [recording, at_point]
    show (rememberTelegramIpv6 s.cache session.targetHost
      (Source.Socks.isIpv6 session.targetHost) resolved.info).entries = _
    rw [hentries]
    cases Ipv6Addr.fromStr session.targetHost with
    | none => rfl
    | some ip =>
      dsimp only [Option.map_some]
      cases entryOf resolved.info with
      | none => rfl
      | some entry => rfl

/-- An own packet is recorded as extracted. -/
theorem ownEntry_of_recording (s : System) (event : Event) (ip : Ipv6Addr)
    (resolved : ResolvedTelegramInit) (goes : ∀ i, GoesByPacket aes (s.tasks i))
    (h : recording s event = some (ip, resolved)) (own : resolved.patched = false) :
    ownEntry aes resolved = entryOf resolved.info := by
  unfold recording at h
  split at h
  · rename_i i
    split at h
    · rename_i session resolved' at_point
      obtain ⟨ip', -, heq⟩ := Option.map_eq_some_iff.mp h
      obtain ⟨rfl, rfl⟩ := Prod.mk.inj heq
      have hgoes := goes i
      rw [at_point] at hgoes
      rw [ownEntry, own, hgoes own]
      rfl
    · cases h
  · cases h

/-- A step keeps the cache at the latest extraction exactly if it does not write back
a pair that the cache no longer holds. -/
theorem step_latest_iff (latest : Entries) (s t : System) (event : Event)
    (goes : ∀ i, GoesByPacket aes (s.tasks i)) (holds : s.cache.entries = latest)
    (h : step aes s event = some t) :
    t.cache.entries = record aes latest s event ↔ ReadStillHeld s event := by
  rw [step_entries aes s t event h]
  unfold record ReadStillHeld
  cases hrecording : recording s event with
  | none => simp only [holds]
  | some recorded =>
    obtain ⟨ip, resolved⟩ := recorded
    cases hpatched : resolved.patched with
    | false =>
      have hown := ownEntry_of_recording aes s event ip resolved goes hrecording hpatched
      simp only [hown, holds, hpatched, Bool.false_eq_true, false_imp_iff]
    | true =>
      have hown : ownEntry aes resolved = none := by rw [ownEntry, hpatched, if_pos rfl]
      cases hentry : entryOf resolved.info with
      | none => simp [hown, holds, hentry]
      | some entry =>
        simp only [hown, hpatched, hentry, ← holds, true_imp_iff, Option.mem_def, Option.some.injEq,
          forall_eq', Function.update_eq_self_iff]
        exact eq_comm

/-! ## Runs -/

/-- With the cache at the latest extraction, packets without a data centre go there. -/
theorem holdsLatest_iff (latest : Entries) (s : System) :
    HoldsLatest aes latest s ↔ s.cache.entries = latest := by
  constructor
  · intro hholds
    funext ip
    exact (hholds ip).1
  · rintro rfl ip
    refine ⟨rfl, ?_⟩
    intro host packet hparse hnone
    have hstatic : ipToDc host = none := by
      unfold ipToDc
      cases hv4 : Ipv4Addr.fromStr host with
      | none => rfl
      | some v4 =>
        rw [Ipv6Addr.fromStr_of_ipv4 host v4 hv4] at hparse
        cases hparse
    unfold resolveTelegramInit Ipv6Cache.learnedIpv6Entry
    simp only [hnone, Option.isNone_none, if_true, hparse, Option.bind_eq_bind, Option.bind_some,
      hstatic, Option.or_none]
    cases s.cache.entries ip with
    | none => simp [entryOf, hnone]
    | some entry => rfl

theorem latest_run_iff (latest : Entries) (s t : System) (events : List Event)
    (goes : ∀ i, GoesByPacket aes (s.tasks i)) (holds : s.cache.entries = latest)
    (ends : runSystem aes s events = some t) :
    (∀ done u, done <+: events → runSystem aes s done = some u →
        u.cache.entries = latestFrom aes latest s done) ↔
      Along (step aes) ReadStillHeld s events := by
  induction events generalizing latest s with
  | nil =>
    refine ⟨fun _ => trivial, ?_⟩
    intro _ done u hdone hrun
    obtain rfl := List.prefix_nil.mp hdone
    obtain rfl := Option.some.inj hrun
    exact holds
  | cons event events ih =>
    obtain ⟨next, hstep, hrest⟩ := (run_cons_eq_some (step aes) s t event events).mp ends
    have hiff := step_latest_iff aes latest s next event goes holds hstep
    have hlatest : ∀ done, latestFrom aes latest s (event :: done) =
        latestFrom aes (record aes latest s event) next done := by
      intro done
      rw [latestFrom, hstep]
    have hrun : ∀ done u, runSystem aes s (event :: done) = some u ↔
        runSystem aes next done = some u := by
      intro done u
      rw [runSystem, run, hstep, Option.bind_some]
    have hgoes := goesByPacket_step aes s next event goes hstep
    constructor
    · intro hall
      have hfirst := hall [event] next (by simp) ((hrun [] next).mpr rfl)
      rw [hlatest] at hfirst
      refine ⟨hiff.mp hfirst, ?_⟩
      intro next' hnext'
      obtain rfl := Option.some.inj (hstep.symm.trans hnext')
      apply (ih (record aes latest s event) next hgoes hfirst hrest).mp
      intro done u hdone hu
      rw [← hlatest]
      exact hall (event :: done) u (List.cons_prefix_cons.mpr ⟨rfl, hdone⟩) ((hrun done u).mpr hu)
    · intro hheld
      obtain ⟨hhere, hthen⟩ := hheld
      have hnext := (ih (record aes latest s event) next hgoes (hiff.mpr hhere) hrest).mpr
        (hthen next hstep)
      intro done u hdone hu
      cases done with
      | nil =>
        obtain rfl := Option.some.inj hu
        exact holds
      | cons event' done =>
        obtain ⟨rfl, hbehind⟩ := List.cons_prefix_cons.mp hdone
        rw [hlatest]
        exact hnext done u hbehind ((hrun done u).mp hu)

/-- In every run of any number of sessions: the cache holds the latest extraction of
each address at every point exactly if no session writes back a pair that the cache
no longer holds. -/
theorem learned_is_latest_iff (events : List Event) (t : System)
    (ends : runSystem aes boot events = some t) :
    (∀ done u, done <+: events → runSystem aes boot done = some u →
        HoldsLatest aes (latestFrom aes Ipv6Cache.empty.entries boot done) u) ↔
      Along (step aes) ReadStillHeld boot events := by
  have hboot : ∀ i, GoesByPacket aes (boot.tasks i) := fun _ => trivial
  rw [← latest_run_iff aes Ipv6Cache.empty.entries boot t events hboot rfl ends]
  simp only [holdsLatest_iff]

/-! ## A lost extraction -/

def sampleTag : Bytes := [0xEF, 0xEF, 0xEF, 0xEF]

/-- Packets of two sessions that name data centres 2 and 4, and of one that names none. -/
def firstOwn : Session := ⟨"2001:67c:4e8::1", 443, sampleInit sampleTag⟩

def laterOwn : Session := ⟨"2001:67c:4e8:0::1", 443, patchInitDc sampleAes (sampleInit sampleTag) 4⟩

def nameless : Session := ⟨"2001:67c:4e8::1", 443, namelessInit⟩

/-- A session up to the lookup. -/
def opens (i : Nat) (session : Session) : List Event :=
  [.accept i session, .readInit i true, .resolve i]

/-- The nameless session records after the later extraction. -/
def lateWrite : List Event :=
  opens 0 firstOwn ++ [.remember 0] ++ opens 1 nameless ++ opens 2 laterOwn ++ [.remember 2, .remember 1]

/-- It records before. -/
def earlyWrite : List Event :=
  opens 0 firstOwn ++ [.remember 0] ++ opens 1 nameless ++ [.remember 1] ++ opens 2 laterOwn ++
    [.remember 2]

theorem learned_is_latest_iff_early :
    ∃ t, runSystem sampleAes boot earlyWrite = some t ∧
      ((∀ done u, done <+: earlyWrite → runSystem sampleAes boot done = some u →
          HoldsLatest sampleAes (latestFrom sampleAes Ipv6Cache.empty.entries boot done) u) ↔
        Along (step sampleAes) ReadStillHeld boot earlyWrite) := by
  obtain ⟨t, hrun⟩ : ∃ t, runSystem sampleAes boot earlyWrite = some t :=
    Option.isSome_iff_exists.mp (by decide +kernel)
  exact ⟨t, hrun, learned_is_latest_iff sampleAes earlyWrite t hrun⟩

/-- The cache goes back to data centre 2 after 4 has been extracted, and that is where
the next packet without a data centre goes. -/
theorem late_write_loses_extraction :
    ∃ ip t, Ipv6Addr.fromStr nameless.targetHost = some ip ∧
      runSystem sampleAes boot lateWrite = some t ∧
      latestFrom sampleAes Ipv6Cache.empty.entries boot lateWrite ip = some ⟨4, false⟩ ∧
      (extractDc sampleAes namelessInit).dc = none ∧
      (resolveTelegramInit sampleAes t.cache nameless.targetHost namelessInit).info =
        ⟨some 2, false⟩ := by
  have hend : ((Ipv6Addr.fromStr nameless.targetHost).bind fun ip =>
      (runSystem sampleAes boot lateWrite).map fun t =>
        (latestFrom sampleAes Ipv6Cache.empty.entries boot lateWrite ip,
          (resolveTelegramInit sampleAes t.cache nameless.targetHost namelessInit).info)) =
      some (some ⟨4, false⟩, ⟨some 2, false⟩) := by
    decide +kernel
  obtain ⟨ip, hparse, hrun⟩ := Option.bind_eq_some_iff.mp hend
  obtain ⟨t, hrun, heq⟩ := Option.map_eq_some_iff.mp hrun
  obtain ⟨hlatest, hresolved⟩ := Prod.mk.inj heq
  exact ⟨ip, t, hparse, hrun, hlatest, by decide +kernel, hresolved⟩

end TgWsProxy.Guarantees.Ipv6Learning
