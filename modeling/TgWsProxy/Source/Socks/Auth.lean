import TgWsProxy.Source.Socks
import TgWsProxy.Source.Std.Text

/-!
# SOCKS accounts

`parse_socks_auth` of `modules/socks.rs`: entries between commas, semicolons and
line breaks, empty ones skipped, each a user name and a password around its first
colon. The first entry that is malformed refuses the whole text.
-/

set_option autoImplicit false

namespace TgWsProxy.Source.Socks
open Source.Std Library.Tokens

def isAuthSeparator (c : Char) : Bool := c == ',' || c == '\n' || c == ';'

def parseAuthEntry (entry : List Char) : Except String SocksUser :=
  match splitOnce ':' entry with
  | none =>
    .error ("invalid SOCKS auth entry `" ++ String.ofList entry ++ "`: expected user:pass")
  | some (username, password) =>
    if username.isEmpty then .error "SOCKS auth username cannot be empty"
    else if password.isEmpty then
      .error ("SOCKS auth password cannot be empty for user `" ++ String.ofList username ++ "`")
    else .ok ⟨String.ofList username, String.ofList password⟩

/-- The loop over the entries, pushing each user read. -/
def parseAuthEntries : List (List Char) → List SocksUser → Except String (List SocksUser)
  | [], users => .ok users
  | entry :: entries, users => do
    let user ← parseAuthEntry entry
    parseAuthEntries entries (users ++ [user])

/-- The trimmed pieces of a text that are not empty. -/
def authEntries (raw : List Char) : List (List Char) :=
  ((raw.splitOnP isAuthSeparator).map trim).filter fun entry => !entry.isEmpty

def parseSocksAuth (input : String) : Except String (Option SocksAuthConfig) :=
  let raw := trim input.toList
  if raw.isEmpty then .ok none
  else do
    let users ← parseAuthEntries (authEntries raw) []
    if users.isEmpty then return none
    else return some ⟨users⟩

/-! ## One entry -/

/-- The entry that a user is written as. -/
def SocksUser.entry (user : SocksUser) : List Char := user.username.toList ++ ':' :: user.password.toList

/-- Both parts are there, and the first colon is the one between them. -/
structure SocksUser.IsNamed (user : SocksUser) : Prop where
  username : user.username ≠ ""
  noColon : ':' ∉ user.username.toList
  password : user.password ≠ ""

theorem parseAuthEntry_ok_iff (entry : List Char) (user : SocksUser) :
    parseAuthEntry entry = .ok user ↔ entry = user.entry ∧ user.IsNamed := by
  constructor
  · intro h
    unfold parseAuthEntry at h
    split at h
    · cases h
    · rename_i username password hsplit
      obtain ⟨rfl, absent⟩ := (splitOnce_eq_some_iff _ _ _ _).mp hsplit
      split at h
      · cases h
      · rename_i husername
        split at h
        · cases h
        · rename_i hpassword
          obtain rfl := Except.ok.inj h
          refine ⟨by simp [SocksUser.entry], ?_, by simpa using absent, ?_⟩
          · simpa using husername
          · simpa using hpassword
  · rintro ⟨rfl, husername, absent, hpassword⟩
    have hsplit : splitOnce ':' user.entry = some (user.username.toList, user.password.toList) :=
      (splitOnce_eq_some_iff _ _ _ _).mpr ⟨rfl, absent⟩
    unfold parseAuthEntry
    rw [hsplit]
    simp [husername, hpassword]

/-- No colon, or nothing on one side of the first. -/
def BadEntry (entry : List Char) : Prop :=
  ':' ∉ entry ∨ ∃ before after, entry = before ++ ':' :: after ∧ ':' ∉ before ∧
    (before = [] ∨ after = [])

theorem parseAuthEntry_error_iff (entry : List Char) :
    (∃ err, parseAuthEntry entry = .error err) ↔ BadEntry entry := by
  unfold parseAuthEntry BadEntry
  cases hsplit : splitOnce ':' entry with
  | none => simp [(splitOnce_eq_none_iff _ _).mp hsplit]
  | some parts =>
    obtain ⟨before, after⟩ := parts
    obtain ⟨rfl, absent⟩ := (splitOnce_eq_some_iff _ _ _ _).mp hsplit
    have hparts : ∀ front back, before ++ ':' :: after = front ++ ':' :: back → ':' ∉ front →
        front = before ∧ back = after := by
      intro front back heq hfront
      rw [(splitOnce_eq_some_iff ':' _ front back).mpr ⟨heq, hfront⟩] at hsplit
      simpa using hsplit
    constructor
    · intro ⟨err, herr⟩
      refine .inr ⟨before, after, rfl, absent, ?_⟩
      by_contra hboth
      simp only [not_or] at hboth
      simp [hboth.1, hboth.2] at herr
    · rintro (hno | ⟨front, back, heq, hfront, hempty⟩)
      · simp at hno
      · obtain ⟨rfl, rfl⟩ := hparts front back heq hfront
        by_cases hname : front = []
        · simp [hname]
        · simp [hname, hempty.resolve_left hname]

/-! ## All entries -/

theorem parseAuthEntries_ok_iff (entries : List (List Char)) (users parsed : List SocksUser) :
    parseAuthEntries entries users = .ok parsed ↔
      ∃ more, parsed = users ++ more ∧ entries = more.map SocksUser.entry ∧
        ∀ user ∈ more, user.IsNamed := by
  induction entries generalizing users with
  | nil =>
    constructor
    · intro h
      exact ⟨[], by simpa using (Except.ok.inj h).symm, rfl, fun _ h => absurd h List.not_mem_nil⟩
    · rintro ⟨more, rfl, hmore, -⟩
      rw [List.map_eq_nil_iff.mp hmore.symm, List.append_nil]
      rfl
  | cons entry entries ih =>
    unfold parseAuthEntries
    cases hentry : parseAuthEntry entry with
    | error err =>
      constructor
      · intro h
        cases h
      · rintro ⟨more, rfl, hmore, hnamed⟩
        obtain ⟨user, rest, rfl, hfirst, -⟩ := List.map_eq_cons_iff.mp hmore.symm
        rw [(parseAuthEntry_ok_iff entry user).mpr ⟨hfirst.symm, hnamed user List.mem_cons_self⟩] at hentry
        cases hentry
    | ok user =>
      obtain ⟨hfirst, huser⟩ := (parseAuthEntry_ok_iff entry user).mp hentry
      show parseAuthEntries entries (users ++ [user]) = .ok parsed ↔ _
      rw [ih]
      constructor
      · rintro ⟨rest, rfl, rfl, hnamed⟩
        refine ⟨user :: rest, by simp, by simp [hfirst], ?_⟩
        intro other hother
        rcases List.mem_cons.mp hother with rfl | hother
        · exact huser
        · exact hnamed other hother
      · rintro ⟨more, rfl, hmore, hnamed⟩
        obtain ⟨head, rest, rfl, hhead, hrest⟩ := List.map_eq_cons_iff.mp hmore.symm
        have hsame := (parseAuthEntry_ok_iff entry head).mpr ⟨hhead.symm, hnamed head List.mem_cons_self⟩
        rw [hentry] at hsame
        obtain rfl := Except.ok.inj hsame
        exact ⟨rest, by simp, hrest.symm, fun other hother => hnamed other (List.mem_cons_of_mem _ hother)⟩

theorem parseAuthEntries_error_iff (entries : List (List Char)) (users : List SocksUser) :
    (∃ err, parseAuthEntries entries users = .error err) ↔ ∃ entry ∈ entries, BadEntry entry := by
  induction entries generalizing users with
  | nil => simp [parseAuthEntries]
  | cons entry entries ih =>
    have hbad := parseAuthEntry_error_iff entry
    unfold parseAuthEntries
    cases hentry : parseAuthEntry entry with
    | error err =>
      rw [hentry] at hbad
      simp [bind, Except.bind, hbad.mp ⟨err, rfl⟩]
    | ok user =>
      have hgood : ¬ BadEntry entry := by
        rw [← hbad, hentry]
        simp
      rw [List.exists_mem_cons_iff]
      simp only [hgood, false_or]
      exact ih (users ++ [user])

/-! ## The whole text -/

theorem authEntries_eq_tokens (raw : List Char) :
    authEntries raw = tokens isAuthSeparator isWhitespace raw := rfl

/-- Trimming the text beforehand changes nothing. -/
theorem parseSocksAuth_eq (input : String) :
    parseSocksAuth input = (parseAuthEntries (authEntries input.toList) []).map fun users =>
      if users.isEmpty then none else some ⟨users⟩ := by
  have htrim : authEntries (trim input.toList) = authEntries input.toList := by
    rw [authEntries_eq_tokens, authEntries_eq_tokens, trim_eq_strip, tokens_strip]
  unfold parseSocksAuth
  dsimp only
  split
  · rename_i hnil
    rw [← htrim, List.isEmpty_iff.mp hnil]
    rfl
  · rw [htrim]
    cases parseAuthEntries (authEntries input.toList) [] with
    | error err => rfl
    | ok users => cases users <;> rfl

theorem parseSocksAuth_some_iff (input : String) (cfg : SocksAuthConfig) :
    parseSocksAuth input = .ok (some cfg) ↔ cfg.users ≠ [] ∧
      authEntries input.toList = cfg.users.map SocksUser.entry ∧ ∀ user ∈ cfg.users, user.IsNamed := by
  have hparse := parseAuthEntries_ok_iff (authEntries input.toList) [] cfg.users
  simp only [List.nil_append, exists_eq_left'] at hparse
  rw [parseSocksAuth_eq, ← hparse]
  cases parseAuthEntries (authEntries input.toList) [] with
  | error err => simp [Except.map]
  | ok users =>
    obtain ⟨accounts⟩ := cfg
    cases users <;> cases accounts <;> simp [Except.map]

theorem parseSocksAuth_error_iff (input : String) :
    (∃ err, parseSocksAuth input = .error err) ↔ ∃ entry ∈ authEntries input.toList, BadEntry entry := by
  rw [← parseAuthEntries_error_iff _ [], parseSocksAuth_eq]
  cases parseAuthEntries (authEntries input.toList) [] with
  | error err => simp [Except.map]
  | ok users => simp [Except.map]

example : parseSocksAuth "alice:one,bob:two\ncarol:three" =
    .ok (some ⟨[⟨"alice", "one"⟩, ⟨"bob", "two"⟩, ⟨"carol", "three"⟩]⟩) := by
  decide +kernel

end TgWsProxy.Source.Socks
