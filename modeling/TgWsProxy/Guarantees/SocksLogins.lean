import TgWsProxy.Guarantees.SocksHandshake
import TgWsProxy.Guarantees.SocksUsers
import TgWsProxy.Source.Std.Utf8Text

/-!
# Can every account log in?

The text of accounts may hold names and passwords of any length; a client sends each behind a
length of one octet. An account whose name or password takes more than 255 octets is accepted at
the start and no client can log in with it (`account_logs_in_iff`); a server that has no other
account lets nobody in (`long_name_locked_out`).
-/

set_option autoImplicit false

namespace TgWsProxy.Guarantees.SocksLogins
open Library Library.Tokens Source.Std Source.Socks SocksHandshake SocksUsers

/-- The octets of a login: each field behind its length, which is at least one. -/
def Presents (user : SocksUser) (login : Bytes) : Prop :=
  ∃ ulen plen : UInt8, ulen ≠ 0 ∧ plen ≠ 0 ∧
    ulen.toNat = (utf8 user.username).length ∧ plen.toNat = (utf8 user.password).length ∧
    login = 0x01 :: ulen :: (utf8 user.username ++ plen :: utf8 user.password)

/-- The method is selected and the login answered with status zero. -/
def PassesAuth (cfg : SocksAuthConfig) (input : Bytes) : Prop :=
  [0x05, 0x02, 0x01, 0x00] <+: ((handleSocks5Handshake (some cfg)).run ⟨input, []⟩).2.output

/-- Some client that presents this user's name and password passes. -/
def CanLogIn (cfg : SocksAuthConfig) (user : SocksUser) : Prop :=
  ∃ greeting login rest, Greeting (some cfg) greeting ∧ Presents user login ∧
    PassesAuth cfg (greeting ++ login ++ rest)

/-- A field fits behind its length exactly if it has at most 255 octets. -/
theorem field_fits_iff (text : String) (nonempty : text ≠ "") :
    (∃ len : UInt8, len ≠ 0 ∧ len.toNat = (utf8 text).length) ↔ (utf8 text).length ≤ 255 := by
  constructor
  · intro ⟨len, _, hlen⟩
    have hlt := len.toNat_lt
    omega
  · intro hfits
    have hpos : (utf8 text).length ≠ 0 := by
      intro hzero
      have hnil : fromUtf8 [] = some text :=
        (fromUtf8_eq_some_iff [] text).mpr (List.length_eq_zero_iff.mp hzero).symm
      exact nonempty (Option.some.inj (hnil.symm.trans ((fromUtf8_eq_some_iff [] "").mpr rfl)))
    have hlen : (UInt8.ofNat (utf8 text).length).toNat = (utf8 text).length := by
      rw [UInt8.toNat_ofNat']
      omega
    refine ⟨UInt8.ofNat (utf8 text).length, ?_, hlen⟩
    intro hzero
    rw [hzero] at hlen
    exact hpos hlen.symm

/-- A user presents a login exactly if both fields fit. -/
theorem presents_iff (user : SocksUser) (account : Account user) :
    (∃ login, Presents user login) ↔
      (utf8 user.username).length ≤ 255 ∧ (utf8 user.password).length ≤ 255 := by
  rw [← field_fits_iff user.username account.username, ← field_fits_iff user.password account.password]
  constructor
  · intro ⟨_, ulen, plen, hu, hp, hulen, hplen, _⟩
    exact ⟨⟨ulen, hu, hulen⟩, ⟨plen, hp, hplen⟩⟩
  · intro ⟨⟨ulen, hu, hulen⟩, ⟨plen, hp, hplen⟩⟩
    exact ⟨_, ulen, plen, hu, hp, hulen, hplen, rfl⟩

/-- The login of a configured user is one that the server accepts. -/
theorem credentials_of_presents (cfg : SocksAuthConfig) (user : SocksUser) (login : Bytes)
    (member : user ∈ cfg.users) (presents : Presents user login) : Credentials (some cfg) login := by
  obtain ⟨ulen, plen, -, -, hulen, hplen, rfl⟩ := presents
  have hu := ulen.toNat_lt
  have hp := plen.toNat_lt
  refine ⟨user, member, by omega, by omega, ?_⟩
  rw [counted, counted, ← hulen, ← hplen, UInt8.ofNat_toNat, UInt8.ofNat_toNat]
  rfl

/-- A connect request behind a login is answered, so the login has passed. -/
theorem passesAuth_of_presents (cfg : SocksAuthConfig) (user : SocksUser) (greeting login : Bytes)
    (greets : Greeting (some cfg) greeting) (member : user ∈ cfg.users)
    (presents : Presents user login) (target : Target) (port : UInt16) :
    PassesAuth cfg (greeting ++ login ++ connectRequest target port) := by
  have known := credentials_of_presents cfg user login member presents
  have hrun := run_of_handshake (some cfg) (greeting ++ login ++ connectRequest target port) [] _
    target port ⟨[], replies (some cfg)⟩ ⟨greeting, login, greets, known, rfl⟩ (List.append_nil _).symm rfl
  unfold PassesAuth
  rw [hrun]
  exact ⟨successReply, rfl⟩

theorem canLogIn_iff (cfg : SocksAuthConfig) (user : SocksUser) (member : user ∈ cfg.users)
    (account : Account user) :
    CanLogIn cfg user ↔ (utf8 user.username).length ≤ 255 ∧ (utf8 user.password).length ≤ 255 := by
  rw [← presents_iff user account]
  constructor
  · intro ⟨_, login, _, _, presents, _⟩
    exact ⟨login, presents⟩
  · intro ⟨login, presents⟩
    have greets : Greeting (some cfg) [0x05, 0x01, 0x02] := ⟨[0x02], by decide, by simp [selectedMethod], rfl⟩
    exact ⟨_, login, _, greets, presents,
      passesAuth_of_presents cfg user _ login greets member presents (.ipv4 [127, 0, 0, 1] rfl) 80⟩

/-- An account of an accepted text can log in exactly if its name and its password have at most
255 octets each. -/
theorem account_logs_in_iff (text : String) (cfg : SocksAuthConfig) (user : SocksUser)
    (parsed : parseSocksAuth text = .ok (some cfg)) (member : user ∈ cfg.users) :
    CanLogIn cfg user ↔ (utf8 user.username).length ≤ 255 ∧ (utf8 user.password).length ≤ 255 := by
  obtain ⟨users⟩ := cfg
  obtain ⟨-, accounts, -⟩ := (parseSocksAuth_users_iff text users).mp parsed
  exact canLogIn_iff ⟨users⟩ user member (accounts user member)

theorem account_logs_in_iff_bob : CanLogIn ⟨[⟨"alice", "one"⟩, ⟨"bob", "two"⟩]⟩ ⟨"bob", "two"⟩ :=
  (account_logs_in_iff "alice:one,bob:two" _ ⟨"bob", "two"⟩ (by decide +kernel) (by decide)).mpr
    (by decide +kernel)

/-- A name of `n` letters. -/
def letters (n : Nat) : SocksUser := ⟨String.ofList (List.replicate n 'a'), "secret"⟩

theorem letters_length (n : Nat) : (utf8 (letters n).username).length = n := by
  have hletter : String.utf8EncodeChar 'a' = [97] := by decide
  rw [letters, utf8_ofList, List.flatMap_replicate, hletter]
  simp

theorem letters_account (n : Nat) : Account (letters (n + 1)) := by
  have hletter : Account ⟨"a", "secret"⟩ := by decide +kernel
  refine ⟨?_, hletter.password, ?_, ?_, ?_, hletter.ends⟩
  · simp [letters, List.replicate_succ]
  · intro c hc
    rcases List.mem_append.mp hc with hc | hc
    · rw [letters, String.toList_ofList] at hc
      rw [List.eq_of_mem_replicate hc]
      decide
    · exact hletter.noSeparator c (List.mem_append_right _ hc)
  · simp [letters]
  · intro c hc
    rw [letters, String.toList_ofList] at hc
    rw [List.eq_of_mem_replicate (List.mem_of_mem_head? hc)]
    decide

/-- A name of 256 letters is accepted at the start, and then nobody gets in. -/
theorem long_name_locked_out :
    parseSocksAuth (writeUsers [letters 256]) = .ok (some ⟨[letters 256]⟩) ∧
      ¬ CanLogIn ⟨[letters 256]⟩ (letters 256) ∧
      ∀ input host port, ((handleSocks5Handshake (some ⟨[letters 256]⟩)).run ⟨input, []⟩).1 ≠
        .ok (.connect host port) := by
  have account := letters_account 255
  have hlength := letters_length 256
  refine ⟨?_, ?_, ?_⟩
  · refine (parseSocksAuth_users_iff _ _).mpr ⟨by simp, by simpa using account, ?_⟩
    rw [writeUsers, String.toList_ofList]
    exact written_intercalate _
  · rw [canLogIn_iff _ (letters 256) (by simp) account, hlength]
    omega
  · intro input host port haccepted
    obtain ⟨target, bs, handshake, -⟩ := handshake_of_run (some ⟨[letters 256]⟩) input [] host port _
      (Prod.ext haccepted rfl)
    obtain ⟨greeting, credentials, -, ⟨user, member, hfits, -, -⟩, -⟩ := handshake
    rw [List.mem_singleton.mp member, hlength] at hfits
    omega

end TgWsProxy.Guarantees.SocksLogins
