import TgWsProxy.Guarantees.SocksHandshake
import TgWsProxy.Source.Config

/-!
# Does a text for the accounts close the proxy?

A text of accounts either stops the start or makes the handshake insist on user name
and password, as long as it has one character that is neither white space nor a
separator (`auth_fails_closed_iff`). A text of separators alone is filtered away to
nothing, is taken for no text at all, and starts an open proxy.
-/

set_option autoImplicit false

namespace TgWsProxy.Guarantees.SocksAccounts
open Library Library.Tokens Source.Std Source.Socks Source.Config SocksHandshake

/-- The text is refused, or read as at least one account. -/
def ParsesClosed (text : String) : Prop :=
  (∃ err, parseSocksAuth text = .error err) ∨
    ∃ auth, parseSocksAuth text = .ok (some auth) ∧ auth.users ≠ []

/-- The handshake accepts only clients that offer method 02, and selects it. -/
def RequiresAuth (auth : Option SocksAuthConfig) : Prop :=
  ∀ input out host port after,
    (handleSocks5Handshake auth).run ⟨input, out⟩ = (.ok (.connect host port), after) →
      ∃ methods rest, input = 0x05 :: UInt8.ofNat methods.length :: (methods ++ rest) ∧
        0x02 ∈ methods ∧ out ++ [0x05, 0x02] <+: after.output

/-- The start is aborted, or the proxy requires an account. -/
def FailsClosed (cfg : CliConfig) : Prop :=
  match RoutedConfig.tryFrom cfg with
  | .error _ => True
  | .ok routed => routed.socksAuth.isSome ∧ RequiresAuth routed.socksAuth

theorem requiresAuth_some (auth : SocksAuthConfig) : RequiresAuth (some auth) := by
  intro input out host port after h
  obtain ⟨target, bs, handshake, hin, hout, -, -⟩ := handshake_of_run _ input out host port after h
  obtain ⟨greeting, credentials, ⟨methods, -, offered, rfl⟩, -, rfl⟩ := handshake
  refine ⟨methods, credentials ++ connectRequest target port ++ after.input, ?_, offered, ?_⟩
  · rw [hin]
    simp
  · rw [hout, replies]
    exact ⟨[0x01, 0x00] ++ successReply, by simp [selectedMethod]⟩

/-- A text without another character than white space and separators has no entries. -/
theorem authEntries_eq_nil_iff (text : List Char) :
    authEntries text = [] ↔ ¬ ∃ c ∈ text, isWhitespace c = false ∧ isAuthSeparator c = false := by
  rw [authEntries_eq_tokens, tokens_eq_nil_iff]
  unfold IsGap
  simp only [not_exists, not_and, Bool.not_eq_false]
  refine forall_congr' fun c => forall_congr' fun _ => ?_
  cases isWhitespace c <;> simp

/-- Such a text is no text; any other is refused, or read as accounts. -/
theorem parsesClosed_iff (text : String) :
    ParsesClosed text ↔ ∃ c ∈ text.toList, isWhitespace c = false ∧ isAuthSeparator c = false := by
  have hentries := authEntries_eq_nil_iff text.toList
  unfold ParsesClosed
  rw [parseSocksAuth_eq]
  cases hparse : parseAuthEntries (authEntries text.toList) [] with
  | error err =>
    have hsome : authEntries text.toList ≠ [] := by
      intro hnil
      rw [hnil] at hparse
      cases hparse
    simpa [Except.map] using not_not.mp (mt hentries.mpr hsome)
  | ok users =>
    obtain ⟨_, rfl, hmore, -⟩ := (parseAuthEntries_ok_iff _ _ _).mp hparse
    rw [← not_iff_not, ← hentries, hmore]
    cases users <;> simp [Except.map]

/-- Of the three separators one is white space as well. -/
theorem separator_iff (c : Char) (space : isWhitespace c = false) :
    isAuthSeparator c = false ↔ c ≠ ',' ∧ c ≠ ';' := by
  have hline : c ≠ '\n' := by
    rintro rfl
    cases space
  simp [isAuthSeparator, hline]

/-- A text for the accounts closes the proxy exactly if it has a character that is
neither white space nor one of the separators. -/
theorem auth_fails_closed_iff (cfg : CliConfig) :
    ParsesClosed cfg.socksUsers ∧ FailsClosed cfg ↔
      ∃ c ∈ cfg.socksUsers.toList, isWhitespace c = false ∧ c ≠ ',' ∧ c ≠ ';' := by
  have hsep : (∃ c ∈ cfg.socksUsers.toList, isWhitespace c = false ∧ c ≠ ',' ∧ c ≠ ';') ↔
      ∃ c ∈ cfg.socksUsers.toList, isWhitespace c = false ∧ isAuthSeparator c = false := by
    constructor
    · intro ⟨c, hc, hspace, hother⟩
      exact ⟨c, hc, hspace, (separator_iff c hspace).mpr hother⟩
    · intro ⟨c, hc, hspace, hother⟩
      exact ⟨c, hc, hspace, (separator_iff c hspace).mp hother⟩
  rw [hsep]
  constructor
  · intro hboth
    exact (parsesClosed_iff cfg.socksUsers).mp hboth.1
  · intro hentry
    have hclosed := (parsesClosed_iff cfg.socksUsers).mpr hentry
    refine ⟨hclosed, ?_⟩
    unfold FailsClosed RoutedConfig.tryFrom
    rcases hclosed with ⟨err, herr⟩ | ⟨auth, hauth, -⟩
    · rw [herr]
      trivial
    · rw [hauth]
      exact ⟨rfl, requiresAuth_some auth⟩

/-- A greeting that offers no authentication, and a connect request. -/
def openRequest : Bytes := [5, 1, 0, 5, 1, 0, 1, 127, 0, 0, 1, 0, 80]

/-- A lone comma starts a proxy that lets such a client in. -/
theorem comma_opens_proxy :
    (∃ c ∈ ",".toList, isWhitespace c = false) ∧ parseSocksAuth "," = .ok none ∧
      RoutedConfig.tryFrom { CliConfig.default with socksUsers := "," } = .ok ⟨15, 10, none⟩ ∧
      ((handleSocks5Handshake none).run ⟨openRequest, []⟩).1 = .ok (.connect "127.0.0.1" 80) := by
  refine ⟨⟨',', by decide, by decide⟩, by decide +kernel, by decide +kernel, ?_⟩
  decide +kernel

end TgWsProxy.Guarantees.SocksAccounts
