import TgWsProxy.Source.Socks.Auth

/-!
# The accounts that a text names

The accounts of a text are those it was written from, however it was written: `parse_socks_auth`
reads back every list of accounts (`Account`) between separators, white space and empty
entries. Conversely an accepted text holds nothing but accounts, and their list joined by
commas reads the same. A text is refused exactly for an entry without a name, a colon or a
password.
-/

set_option autoImplicit false

namespace TgWsProxy.Guarantees.SocksUsers
open Library.Tokens Source.Std Source.Socks

/-- A user name and password that a text can hold. -/
structure Account (user : SocksUser) : Prop where
  username : user.username ≠ ""
  password : user.password ≠ ""
  noSeparator : ∀ c ∈ user.username.toList ++ user.password.toList, c ≠ ',' ∧ c ≠ ';' ∧ c ≠ '\n'
  noColon : ':' ∉ user.username.toList
  starts : ∀ c ∈ user.username.toList.head?, isWhitespace c = false
  ends : ∀ c ∈ user.password.toList.getLast?, isWhitespace c = false

instance (user : SocksUser) : Decidable (Account user) :=
  decidable_of_iff (user.username ≠ "" ∧ user.password ≠ "" ∧
      ((user.username.toList ++ user.password.toList).all fun c => c ≠ ',' ∧ c ≠ ';' ∧ c ≠ '\n') = true ∧
      ':' ∉ user.username.toList ∧ (user.username.toList.head?.all fun c => isWhitespace c = false) = true ∧
      (user.password.toList.getLast?.all fun c => isWhitespace c = false) = true)
    (by simp only [List.all_eq_true, Option.all_eq_true, decide_eq_true_eq]
        exact ⟨fun ⟨h1, h2, h3, h4, h5, h6⟩ => ⟨h1, h2, h3, h4, h5, h6⟩,
          fun ⟨h1, h2, h3, h4, h5, h6⟩ => ⟨h1, h2, h3, h4, h5, h6⟩⟩)

/-- The users as `username:password`, joined by commas. -/
def writeUsers (users : List SocksUser) : String :=
  String.ofList ([','].intercalate (users.map SocksUser.entry))

theorem notSeparator_iff (c : Char) :
    isAuthSeparator c = false ↔ c ≠ ',' ∧ c ≠ ';' ∧ c ≠ '\n' := by
  simp only [isAuthSeparator, Bool.or_eq_false_iff, beq_eq_false_iff_ne]
  tauto

/-- Accounts are the users whose entry is a token. -/
theorem account_iff (user : SocksUser) :
    Account user ↔ user.IsNamed ∧ IsToken isAuthSeparator isWhitespace user.entry := by
  have hcolon : isAuthSeparator ':' = false := rfl
  constructor
  · intro account
    refine ⟨⟨account.username, account.noColon, account.password⟩, by simp [SocksUser.entry], ?_, ?_, ?_⟩
    · intro c hc
      rw [SocksUser.entry, List.mem_append, List.mem_cons] at hc
      rcases hc with hc | rfl | hc
      · exact (notSeparator_iff c).mpr (account.noSeparator c (List.mem_append_left _ hc))
      · exact hcolon
      · exact (notSeparator_iff c).mpr (account.noSeparator c (List.mem_append_right _ hc))
    · have hname : user.username.toList ≠ [] := by simpa using account.username
      rw [SocksUser.entry, List.head?_append_of_ne_nil _ hname]
      exact account.starts
    · have hpass : user.password.toList ≠ [] := by simpa using account.password
      rw [SocksUser.entry, List.append_cons, List.getLast?_append_of_ne_nil _ hpass]
      exact account.ends
  · rintro ⟨named, token⟩
    have hname : user.username.toList ≠ [] := by simpa using named.username
    have hpass : user.password.toList ≠ [] := by simpa using named.password
    have hstarts := token.starts
    have hends := token.ends
    rw [SocksUser.entry, List.head?_append_of_ne_nil _ hname] at hstarts
    rw [SocksUser.entry, List.append_cons, List.getLast?_append_of_ne_nil _ hpass] at hends
    refine ⟨named.username, named.password, ?_, named.noColon, hstarts, hends⟩
    intro c hc
    refine (notSeparator_iff c).mp (token.whole c ?_)
    rcases List.mem_append.mp hc with hc | hc <;> simp [SocksUser.entry, hc]

/-- A text is read as users exactly if these are accounts and it writes them down. -/
theorem parseSocksAuth_users_iff (text : String) (users : List SocksUser) :
    parseSocksAuth text = .ok (some ⟨users⟩) ↔ users ≠ [] ∧ (∀ user ∈ users, Account user) ∧
      Written isAuthSeparator isWhitespace (users.map SocksUser.entry) text.toList := by
  rw [parseSocksAuth_some_iff, authEntries_eq_tokens, tokens_eq_iff]
  simp only [List.mem_map, forall_exists_index, and_imp, forall_apply_eq_imp_iff₂, account_iff]
  constructor
  · intro ⟨hne, ⟨written, tokens⟩, named⟩
    exact ⟨hne, fun user h => ⟨named user h, tokens user h⟩, written⟩
  · intro ⟨hne, accounts, written⟩
    exact ⟨hne, ⟨written, fun user h => (accounts user h).2⟩, fun user h => (accounts user h).1⟩

/-- Entries joined by a separator are a way to write them down. -/
theorem written_intercalate (entries : List (List Char)) :
    Written isAuthSeparator isWhitespace entries ([','].intercalate entries) := by
  have hgap : IsGap isAuthSeparator isWhitespace [] := fun _ h => absurd h List.not_mem_nil
  induction entries with
  | nil => exact .blank [] hgap
  | cons entry rest ih =>
    cases rest with
    | nil =>
      have hlast := Written.last [] entry [] hgap hgap
      simpa using hlast
    | cons next rest =>
      have hcons := Written.cons [] entry [] ',' (next :: rest) _ hgap hgap rfl ih
      simpa [List.intercalate_cons_cons] using hcons

/-- The accounts written into a text are read back, in their order; what is read is accounts, and
their own text is read the same; and what is refused has a bad entry. -/
theorem parseSocksAuth_exact :
    (∀ (users : List SocksUser) (text : String), users ≠ [] → (∀ user ∈ users, Account user) →
      Written isAuthSeparator isWhitespace (users.map SocksUser.entry) text.toList →
        parseSocksAuth text = .ok (some ⟨users⟩)) ∧
    (∀ (text : String) (cfg : SocksAuthConfig), parseSocksAuth text = .ok (some cfg) →
      (∀ user ∈ cfg.users, Account user) ∧ parseSocksAuth (writeUsers cfg.users) = .ok (some cfg)) ∧
    ∀ text : String, (∃ err, parseSocksAuth text = .error err) ↔
      ∃ piece ∈ text.toList.splitOnP isAuthSeparator, trim piece ≠ [] ∧ BadEntry (trim piece) := by
  refine ⟨?_, ?_, ?_⟩
  · intro users text hne accounts written
    exact (parseSocksAuth_users_iff text users).mpr ⟨hne, accounts, written⟩
  · intro text ⟨users⟩ h
    obtain ⟨hne, accounts, -⟩ := (parseSocksAuth_users_iff text users).mp h
    refine ⟨accounts, (parseSocksAuth_users_iff _ users).mpr ⟨hne, accounts, ?_⟩⟩
    rw [writeUsers, String.toList_ofList]
    exact written_intercalate (users.map SocksUser.entry)
  · intro text
    rw [parseSocksAuth_error_iff]
    unfold authEntries
    constructor
    · intro ⟨entry, hentry, bad⟩
      obtain ⟨hmem, hne⟩ := List.mem_filter.mp hentry
      obtain ⟨piece, hpiece, rfl⟩ := List.mem_map.mp hmem
      exact ⟨piece, hpiece, by simpa using hne, bad⟩
    · intro ⟨piece, hpiece, hne, bad⟩
      refine ⟨trim piece, List.mem_filter.mpr ⟨List.mem_map_of_mem hpiece, by simpa using hne⟩, bad⟩

/-- Two accounts on lines of their own, behind an empty entry. -/
theorem parseSocksAuth_exact_lines :
    parseSocksAuth ", alice:one ;\n bob:t:wo\n" = .ok (some ⟨[⟨"alice", "one"⟩, ⟨"bob", "t:wo"⟩]⟩) := by
  have hgap : ∀ gap : List Char, (gap.all fun c => isWhitespace c || isAuthSeparator c) = true →
      IsGap isAuthSeparator isWhitespace gap := by
    intro gap h c hc
    simpa using List.all_eq_true.mp h c hc
  refine parseSocksAuth_exact.1 _ _ (by simp) ?_ ?_
  · intro user huser
    simp only [List.mem_cons, List.not_mem_nil, or_false] at huser
    rcases huser with rfl | rfl <;> decide +kernel
  · exact .cons [',', ' '] "alice:one".toList [' '] ';' ["bob:t:wo".toList] _ (hgap _ (by decide))
      (hgap _ (by decide)) rfl
      (.last ['\n', ' '] "bob:t:wo".toList ['\n'] (hgap _ (by decide)) (hgap _ (by decide)))

end TgWsProxy.Guarantees.SocksUsers
