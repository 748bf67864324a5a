import TgWsProxy.Guarantees.AcceptLoops
import TgWsProxy.Guarantees.Sessions
import TgWsProxy.Guarantees.SocksHandshake
import TgWsProxy.Guarantees.SocksUsers
import TgWsProxy.Source.Main

/-!
# Who gets through the process

In every run of the process, with its accept loops, handshakes and sessions in any order,
a connection waits for its handshake, was refused for what it sent itself, or has a session
for the target that it named and with the octets behind its own handshake
(`every_connection_placed`). Where accounts were configured, the session belongs to one of
them (`sessions_hold_accounts`).
-/

set_option autoImplicit false

namespace TgWsProxy.Guarantees.Admission
open Library Library.Io Library.Tokens Library.Transition
open Source Source.Std Source.Socks Source.Config Source.Telegram Source.Main
open Source.Runtime (Server Net ServerError)
open Source.Routing (Task Session System Outcome)
open Sessions SocksHandshake SocksUsers

variable {Err : Type} (aes : Aes256)

/-! ## The parts of the process -/

/-- The accept loops append to what they have handed over, under one configuration. -/
theorem handed_step (s t : Server Duplex Err) (event : Runtime.Event Duplex Err)
    (h : Runtime.step s event = some t) :
    t.routingConfig = s.routingConfig ∧
      (t.handed = s.handed ∨
        ∃ listener conn, t.handed = s.handed ++ [(listener, conn, s.routingConfig)]) := by
  cases event with
  | accept listener outcome =>
    unfold Runtime.step at h
    dsimp only at h
    split at h
    · cases h
    · obtain rfl := Option.some.inj h
      split
      · cases outcome with
        | ok conn => exact ⟨rfl, .inr ⟨listener, conn, rfl⟩⟩
        | error err => exact ⟨rfl, .inl rfl⟩
      · exact ⟨rfl, .inl rfl⟩
  | joinNext =>
    unfold Runtime.step at h
    dsimp only at h
    split at h
    · cases h
    · split at h
      · obtain rfl := Option.some.inj h
        exact ⟨rfl, .inl rfl⟩
      · split at h
        · cases h
        · obtain rfl := Option.some.inj h
          exact ⟨rfl, .inl rfl⟩

theorem settle_ne_idle {α : Type} (stage : Except Outcome α) (next : α → Task)
    (later : ∀ a, next a ≠ .idle) : Routing.settle stage next ≠ .idle := by
  cases stage with
  | error outcome => simp [Routing.settle]
  | ok a => exact later a

/-- A later step of a session neither begins one nor takes one back. -/
theorem idle_step_iff (s t : System) (event : Routing.Event) (later : begins event = false)
    (h : Routing.step aes s event = some t) (j : Nat) :
    t.tasks j = .idle ↔ s.tasks j = .idle := by
  have hput : ∀ (s' : System) (i : Nat) (task : Task), s'.tasks = s.tasks → task ≠ .idle →
      s.tasks i ≠ .idle → ((s'.put i task).tasks j = .idle ↔ s.tasks j = .idle) := by
    intro s' i task hsame htask hpoint
    unfold Routing.System.put
    dsimp only
    rw [hsame]
    by_cases hj : j = i
    · subst hj
      rw [Function.update_self]
      exact iff_of_false htask hpoint
    · rw [Function.update_of_ne hj]
  cases Routing.resumption_of_step aes s t event h with
  | tick elapsed => rfl
  | accept i session at_point => cases later
  | readInit i timely session at_point =>
    apply hput s i _ rfl (settle_ne_idle _ _ (by simp)) (by simp [at_point])
  | resolve i session initPacket at_point =>
    exact hput s i _ rfl (by simp) (by simp [at_point])
  | remember i session resolved at_point =>
    exact hput _ i _ rfl (settle_ne_idle _ _ (by simp)) (by simp [at_point])
  | sample i session resolved key at_point =>
    exact hput s i _ rfl (by simp) (by simp [at_point])
  | probe i session resolved key now at_point =>
    exact hput _ i _ rfl (settle_ne_idle _ _ (by simp)) (by simp [at_point])
  | finish i connect session resolved key now at_point =>
    exact hput _ i _ rfl (by simp) (by simp [at_point])

/-! ## Every connection has its place -/

/-- What a connection has come to: what its task stands at and the error it was refused with. -/
inductive Place (cfg : RoutedConfig) (conn : Duplex) : Option SocksError → Task → Prop
  | waiting : Place cfg conn none .idle
  | refused (err : SocksError) (fails : sessionOf cfg conn = .error err) : Place cfg conn (some err) .idle
  | admitted (session : Session) (task : Task) (admitted : sessionOf cfg conn = .ok session)
      (begun : task ≠ .idle) (explained : Explained aes (fun other => sessionOf cfg conn = .ok other) task) :
      Place cfg conn none task

/-- Every connection that was handed over has its place, and there are no other tasks. -/
structure Placed (cfg : RoutedConfig) (p : Process Err) : Prop where
  config : p.server.routingConfig = cfg
  handed : ∀ entry ∈ p.server.handed, entry.2.2 = cfg
  place : ∀ i listener conn cfg', p.server.handed[i]? = some (listener, conn, cfg') →
    Place aes cfg conn (p.refused i) (p.routing.tasks i)
  unborn : ∀ i, p.server.handed[i]? = none → p.refused i = none ∧ p.routing.tasks i = .idle

/-- What the handshake of a connection admits. -/
def Admits (cfg : RoutedConfig) (p : Process Err) (i : Nat) (session : Session) : Prop :=
  ∀ listener conn cfg', p.server.handed[i]? = some (listener, conn, cfg') →
    sessionOf cfg conn = .ok session

theorem admits_of_handed (cfg : RoutedConfig) (p : Process Err) (i : Nat)
    (entry : Nat × Duplex × RoutedConfig) (handed : p.server.handed[i]? = some entry) :
    Admits cfg p i = fun session => sessionOf cfg entry.2.1 = .ok session := by
  funext session
  apply propext
  constructor
  · exact fun h => h entry.1 entry.2.1 entry.2.2 handed
  · rintro h listener conn cfg' hsame
    obtain rfl := Option.some.inj (handed.symm.trans hsame)
    exact h

theorem place_explained (cfg : RoutedConfig) (conn : Duplex) (err : Option SocksError) (task : Task)
    (place : Place aes cfg conn err task) :
    Explained aes (fun session => sessionOf cfg conn = .ok session) task := by
  cases place with
  | waiting | refused err fails => trivial
  | admitted session task admitted begun explained => exact explained

/-- A task that goes on keeps its place. -/
theorem place_of_explained (cfg : RoutedConfig) (conn : Duplex) (err : Option SocksError)
    (task next : Task) (place : Place aes cfg conn err task) (idle : next = .idle ↔ task = .idle)
    (explained : Explained aes (fun session => sessionOf cfg conn = .ok session) next) :
    Place aes cfg conn err next := by
  cases place with
  | waiting =>
    rw [idle.mpr rfl]
    exact .waiting
  | refused err fails =>
    rw [idle.mpr rfl]
    exact .refused err fails
  | admitted session task admitted begun _ =>
    exact .admitted session next admitted (mt idle.mp begun) explained

theorem placed_step (cfg : RoutedConfig) (p q : Process Err) (event : Event Err)
    (placed : Placed aes cfg p) (h : step aes p event = some q) : Placed aes cfg q := by
  obtain ⟨hconfig, hhanded, hplace, hunborn⟩ := placed
  cases move_of_step aes p q event h with
  | shutdown => exact ⟨hconfig, hhanded, hplace, hunborn⟩
  | serve event server moves =>
    obtain ⟨hsame, hall | ⟨listener, conn, hall⟩⟩ := handed_step p.server server event moves
    · refine ⟨hsame.trans hconfig, ?_, ?_, ?_⟩ <;> dsimp only <;> rw [hall]
      · exact hhanded
      · exact hplace
      · exact hunborn
    · refine ⟨hsame.trans hconfig, ?_, ?_, ?_⟩ <;> dsimp only <;> rw [hall]
      · intro entry hentry
        rcases List.mem_append.mp hentry with hold | hnew
        · exact hhanded entry hold
        · obtain rfl := List.mem_singleton.mp hnew
          exact hconfig
      · intro i listener' conn' cfg' hi
        rcases Nat.lt_or_ge i p.server.handed.length with hlt | hge
        · rw [List.getElem?_append_left hlt] at hi
          exact hplace i listener' conn' cfg' hi
        · obtain ⟨hfresh, hidle⟩ := hunborn i (List.getElem?_eq_none hge)
          rw [hfresh, hidle]
          exact .waiting
      · intro i hi
        have hlen := List.getElem?_eq_none_iff.mp hi
        rw [List.length_append] at hlen
        exact hunborn i (List.getElem?_eq_none (by omega))
  | refuse i listener conn cfg' err handed fresh idle refused =>
    obtain rfl : cfg' = cfg := hhanded _ (List.mem_of_getElem? handed)
    refine ⟨hconfig, hhanded, ?_, ?_⟩
    · intro j listener' conn' other hj
      dsimp only
      by_cases hji : j = i
      · subst hji
        rw [handed] at hj
        obtain ⟨rfl, rfl, rfl⟩ := by simpa using hj
        rw [Function.update_self, idle]
        exact .refused err refused
      · rw [Function.update_of_ne hji]
        exact hplace j listener' conn' other hj
    · intro j hj
      have hji : j ≠ i := by
        rintro rfl
        rw [handed] at hj
        cases hj
      dsimp only
      rw [Function.update_of_ne hji]
      exact hunborn j hj
  | enter i listener conn cfg' session handed fresh idle admitted =>
    obtain rfl : cfg' = cfg := hhanded _ (List.mem_of_getElem? handed)
    refine ⟨hconfig, hhanded, ?_, ?_⟩
    · intro j listener' conn' other hj
      dsimp only [Routing.System.put]
      by_cases hji : j = i
      · subst hji
        rw [handed] at hj
        obtain ⟨rfl, rfl, rfl⟩ := by simpa using hj
        rw [Function.update_self, fresh]
        exact .admitted session _ admitted (by simp) admitted
      · rw [Function.update_of_ne hji]
        exact hplace j listener' conn' other hj
    · intro j hj
      have hji : j ≠ i := by
        rintro rfl
        rw [handed] at hj
        cases hj
      dsimp only [Routing.System.put]
      rw [Function.update_of_ne hji]
      exact hunborn j hj
  | route event routing later moves =>
    have hidle := idle_step_iff aes p.routing routing event later moves
    have hnot : Accepts (Admits cfg p) p.routing event := by
      rintro i session rfl
      cases later
    have hstart : ∀ j, Explained aes (Admits cfg p j) (p.routing.tasks j) := by
      intro j
      cases hj : p.server.handed[j]? with
      | none =>
        rw [(hunborn j hj).2]
        trivial
      | some entry =>
        rw [admits_of_handed cfg p j entry hj]
        exact place_explained aes cfg entry.2.1 _ _ (hplace j entry.1 entry.2.1 entry.2.2 hj)
    have hnext := explained_step aes (Admits cfg p) p.routing routing event hstart hnot moves
    refine ⟨hconfig, hhanded, ?_, ?_⟩
    · intro j listener conn cfg' hj
      have hexplained := hnext j
      rw [admits_of_handed cfg p j _ hj] at hexplained
      exact place_of_explained aes cfg conn _ _ _ (hplace j listener conn cfg' hj) (hidle j) hexplained
    · intro j hj
      obtain ⟨hfresh, hpoint⟩ := hunborn j hj
      exact ⟨hfresh, (hidle j).mpr hpoint⟩

theorem start_placed (net : Net Err) (config : CliConfig) (p : Process Err)
    (started : start net config = .ok p) :
    RoutedConfig.tryFrom config = .ok p.server.routingConfig ∧
      Placed aes p.server.routingConfig p := by
  unfold start Runtime.runServer at started
  cases hconfig : RoutedConfig.tryFrom config with
  | error err =>
    rw [hconfig] at started
    cases started
  | ok routed =>
    rw [hconfig] at started
    cases hbind : Runtime.bindHost net config.host config.port with
    | error err =>
      rw [hbind] at started
      cases started
    | ok listeners =>
      rw [hbind] at started
      obtain rfl := Except.ok.inj started
      exact ⟨rfl, rfl, by simp, by simp, fun i _ => ⟨rfl, rfl⟩⟩

theorem run_placed (net : Net Err) (config : CliConfig) (p₀ p : Process Err)
    (events : List (Event Err)) (started : start net config = .ok p₀)
    (ends : run (step aes) p₀ events = some p) :
    ∃ cfg, RoutedConfig.tryFrom config = .ok cfg ∧ Placed aes cfg p := by
  obtain ⟨hconfig, hplaced⟩ := start_placed aes net config p₀ started
  exact ⟨_, hconfig, run_invariant_of_step (step aes) (Placed aes p₀.server.routingConfig)
    (fun p event q hp hstep => placed_step aes _ p q event hp hstep) p₀ p events hplaced ends⟩

/-- In every run of the process a connection waits for its handshake, was refused with the
error that its own octets lead to, or has the session that they name, as far as the session
has come; and there is no session without a connection. -/
theorem every_connection_placed (net : Net Err) (config : CliConfig) (p₀ p : Process Err)
    (events : List (Event Err)) (started : start net config = .ok p₀)
    (ends : run (step aes) p₀ events = some p) (i : Nat) :
    match p.server.handed[i]? with
    | none => p.refused i = none ∧ p.routing.tasks i = .idle
    | some (_, conn, cfg) => RoutedConfig.tryFrom config = .ok cfg ∧
        Place aes cfg conn (p.refused i) (p.routing.tasks i) := by
  obtain ⟨cfg, hconfig, hplaced⟩ := run_placed aes net config p₀ p events started ends
  cases hi : p.server.handed[i]? with
  | none => exact hplaced.unborn i hi
  | some entry =>
    obtain ⟨listener, conn, cfg'⟩ := entry
    obtain rfl : cfg' = cfg := hplaced.handed _ (List.mem_of_getElem? hi)
    exact ⟨hconfig, hplaced.place i listener conn cfg' hi⟩

/-- One account, and a client that presents it and names a Telegram address. -/
def aliceConfig : CliConfig := { CliConfig.default with socksUsers := "alice:one" }

def aliceClient : Duplex :=
  ⟨[5, 1, 2] ++ [1, 5, 97, 108, 105, 99, 101, 3, 111, 110, 101] ++
    [5, 1, 0, 1, 149, 154, 167, 220, 1, 187] ++ List.replicate 64 0, []⟩

def aliceRun : List (Event AcceptLoops.AcceptError) :=
  [.serve (.accept 0 (.ok aliceClient)), .handshake 0, .route (.readInit 0 true), .shutdown]

theorem aliceRun_ends : ∃ p₀ p, start AcceptLoops.sampleNet aliceConfig = .ok p₀ ∧
    run (step sampleAes) p₀ aliceRun = some p := by
  have hends : (match start AcceptLoops.sampleNet aliceConfig with
      | .error _ => none
      | .ok p₀ => run (step sampleAes) p₀ aliceRun).isSome := by
    decide +kernel
  cases hstart : start AcceptLoops.sampleNet aliceConfig with
  | error err =>
    rw [hstart] at hends
    cases hends
  | ok p₀ =>
    rw [hstart] at hends
    obtain ⟨p, hp⟩ := Option.isSome_iff_exists.mp hends
    exact ⟨p₀, p, rfl, hp⟩

theorem every_connection_placed_alice :
    ∃ p₀ p, start AcceptLoops.sampleNet aliceConfig = .ok p₀ ∧
      run (step sampleAes) p₀ aliceRun = some p ∧
      match p.server.handed[0]? with
      | none => p.refused 0 = none ∧ p.routing.tasks 0 = .idle
      | some (_, conn, cfg) => RoutedConfig.tryFrom aliceConfig = .ok cfg ∧
          Place sampleAes cfg conn (p.refused 0) (p.routing.tasks 0) := by
  obtain ⟨p₀, p, hstart, hends⟩ := aliceRun_ends
  exact ⟨p₀, p, hstart, hends,
    every_connection_placed sampleAes AcceptLoops.sampleNet aliceConfig p₀ p aliceRun hstart hends 0⟩

/-! ## Accounts -/

/-- What a handshake admits is a stream of the grammar and the octets behind it. -/
theorem sessionOf_ok_iff (cfg : RoutedConfig) (conn : Duplex) (session : Session) :
    sessionOf cfg conn = .ok session ↔
      ∃ target bs, Handshake cfg.socksAuth target session.targetPort bs ∧
        conn.input = bs ++ session.client ∧ session.targetHost = target.host := by
  unfold sessionOf
  constructor
  · intro h
    cases hrun : (handleSocks5Handshake cfg.socksAuth).run conn with
    | mk result after =>
      rw [hrun] at h
      cases result with
      | error err => cases h
      | ok command =>
        obtain ⟨host, port⟩ := command
        obtain rfl := Except.ok.inj h
        obtain ⟨target, bs, hbs, hinput, -, hhost, -⟩ :=
          handshake_of_run cfg.socksAuth conn.input conn.output host port after hrun
        exact ⟨target, bs, hbs, hinput, hhost⟩
  · rintro ⟨target, bs, hbs, hinput, hhost⟩
    have hrun := run_of_handshake cfg.socksAuth conn.input conn.output bs target session.targetPort
      ⟨session.client, conn.output ++ replies cfg.socksAuth⟩ hbs hinput rfl
    rw [hrun, ← hhost]

/-- A greeting that offers user name and password, the user's own, the request for the
session's target and the session's octets. -/
def Presents (user : SocksUser) (session : Session) (input : Bytes) : Prop :=
  ∃ (methods : Bytes) (target : Target), methods.length < 256 ∧ 0x02 ∈ methods ∧
    (utf8 user.username).length < 256 ∧ (utf8 user.password).length < 256 ∧
    session.targetHost = target.host ∧
    input = (0x05 :: UInt8.ofNat methods.length :: methods) ++
      (0x01 :: (counted user.username ++ counted user.password)) ++
      connectRequest target session.targetPort ++ session.client

theorem sessionOf_account_iff (cfg : RoutedConfig) (users : List SocksUser) (conn : Duplex)
    (session : Session) (auth : cfg.socksAuth = some ⟨users⟩) :
    sessionOf cfg conn = .ok session ↔ ∃ user ∈ users, Presents user session conn.input := by
  rw [sessionOf_ok_iff, auth]
  constructor
  · rintro ⟨target, bs, ⟨greeting, credentials, ⟨methods, hfits, hoffered, rfl⟩, hcredentials, rfl⟩,
      hinput, hhost⟩
    obtain ⟨user, huser, hname, hpass, rfl⟩ := hcredentials
    exact ⟨user, huser, methods, target, hfits, hoffered, hname, hpass, hhost, hinput⟩
  · rintro ⟨user, huser, methods, target, hfits, hoffered, hname, hpass, hhost, hinput⟩
    exact ⟨target, _, ⟨_, _, ⟨methods, hfits, hoffered, rfl⟩, ⟨user, huser, hname, hpass, rfl⟩, rfl⟩,
      hinput, hhost⟩

/-- A process that was started with a text of accounts, however it is written: in every run,
a connection has a session only if it presented one of the accounts, for the target and with
the octets behind, and is refused only if it presented none. -/
theorem sessions_hold_accounts (net : Net Err) (config : CliConfig) (users : List SocksUser)
    (p₀ p : Process Err) (events : List (Event Err)) (some_users : users ≠ [])
    (accounts : ∀ user ∈ users, Account user)
    (written : Written isAuthSeparator isWhitespace (users.map SocksUser.entry) config.socksUsers.toList)
    (started : start net config = .ok p₀) (ends : run (step aes) p₀ events = some p) (i : Nat) :
    (p.routing.tasks i ≠ .idle → ∃ listener conn cfg session,
      p.server.handed[i]? = some (listener, conn, cfg) ∧
      (∃ user ∈ users, Presents user session conn.input) ∧
      Explained aes (· = session) (p.routing.tasks i)) ∧
    (p.refused i ≠ none → ∃ listener conn cfg, p.server.handed[i]? = some (listener, conn, cfg) ∧
      ∀ user ∈ users, ∀ session, ¬ Presents user session conn.input) := by
  obtain ⟨cfg, hconfig, hplaced⟩ := run_placed aes net config p₀ p events started ends
  have hauth : cfg.socksAuth = some ⟨users⟩ := by
    have hparse := (parseSocksAuth_users_iff config.socksUsers users).mpr ⟨some_users, accounts, written⟩
    unfold RoutedConfig.tryFrom at hconfig
    rw [hparse] at hconfig
    rw [← Except.ok.inj hconfig]
  cases hi : p.server.handed[i]? with
  | none =>
    obtain ⟨hfresh, hidle⟩ := hplaced.unborn i hi
    exact ⟨fun h => absurd hidle h, fun h => absurd hfresh h⟩
  | some entry =>
    obtain ⟨listener, conn, cfg'⟩ := entry
    have hplace := hplaced.place i listener conn cfg' hi
    constructor
    · intro hbegun
      generalize hrefused : p.refused i = err at hplace
      generalize htask : p.routing.tasks i = task at hplace hbegun
      cases hplace with
      | waiting | refused err fails => exact absurd rfl hbegun
      | admitted session task admitted begun explained =>
        have hpresents := (sessionOf_account_iff cfg users conn session hauth).mp admitted
        have hsame : (fun other => sessionOf cfg conn = .ok other) = (· = session) := by
          funext other
          rw [admitted, Except.ok.injEq]
          exact propext eq_comm
        rw [hsame] at explained
        exact ⟨listener, conn, cfg', session, rfl, hpresents, explained⟩
    · intro hrefused
      generalize htask : p.routing.tasks i = task at hplace
      generalize herr : p.refused i = err at hplace hrefused
      cases hplace with
      | waiting | admitted session task admitted begun explained => exact absurd rfl hrefused
      | refused err fails =>
        refine ⟨listener, conn, cfg', rfl, ?_⟩
        intro user huser session hpresents
        have hok := (sessionOf_account_iff cfg users conn session hauth).mpr ⟨user, huser, hpresents⟩
        rw [fails] at hok
        cases hok

theorem sessions_hold_accounts_alice :
    ∃ p₀ p, start AcceptLoops.sampleNet aliceConfig = .ok p₀ ∧
      run (step sampleAes) p₀ aliceRun = some p ∧
      (p.routing.tasks 0 ≠ .idle → ∃ listener conn cfg session,
        p.server.handed[0]? = some (listener, conn, cfg) ∧
        (∃ user ∈ [⟨"alice", "one"⟩], Presents user session conn.input) ∧
        Explained sampleAes (· = session) (p.routing.tasks 0)) ∧
      (p.refused 0 ≠ none → ∃ listener conn cfg, p.server.handed[0]? = some (listener, conn, cfg) ∧
        ∀ user ∈ [⟨"alice", "one"⟩], ∀ session, ¬ Presents user session conn.input) := by
  obtain ⟨p₀, p, hstart, hends⟩ := aliceRun_ends
  have haccounts : ∀ user ∈ [(⟨"alice", "one"⟩ : SocksUser)], Account user := by
    intro user huser
    obtain rfl := List.mem_singleton.mp huser
    decide +kernel
  have hwritten : Written isAuthSeparator isWhitespace
      ([(⟨"alice", "one"⟩ : SocksUser)].map SocksUser.entry) aliceConfig.socksUsers.toList := by
    have hgap : IsGap isAuthSeparator isWhitespace [] := fun _ h => absurd h List.not_mem_nil
    simpa [SocksUser.entry, aliceConfig] using Written.last [] "alice:one".toList [] hgap hgap
  exact ⟨p₀, p, hstart, hends, sessions_hold_accounts sampleAes AcceptLoops.sampleNet aliceConfig
    [⟨"alice", "one"⟩] p₀ p aliceRun (by simp) haccounts hwritten hstart hends 0⟩

end TgWsProxy.Guarantees.Admission
