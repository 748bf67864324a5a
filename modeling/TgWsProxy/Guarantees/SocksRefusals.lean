import TgWsProxy.Guarantees.SocksHandshake

/-!
# What a refused client is told

A handshake that fails, and not for want of octets, has either written the refusal of the
phase it reached (`Refusal`) or nothing since the last phase that succeeded. The second
happens on names and passwords that are not UTF-8, on host names that are not, and on
unknown address types (`Unanswered`), where the error leaves through `?`.
-/

set_option autoImplicit false

namespace TgWsProxy.Guarantees.SocksRefusals
open Library Library.Io Source.Std Source.Socks SocksHandshake

/-! ## Phases -/

/-- The octets that end the authentication of a client that is let in. -/
def authStatus (auth : Option SocksAuthConfig) : Bytes := if auth.isSome then [0x01, 0x00] else []

/-- The refusals that a client can recognise, by the phase that refuses it. -/
inductive Refusal (auth : Option SocksAuthConfig) : Bytes → Bytes → Prop
  | method (n : UInt8) (methods rest : Bytes) (size : methods.length = n.toNat)
      (missing : selectedMethod auth ∉ methods) :
      Refusal auth (0x05 :: n :: (methods ++ rest)) [0x05, 0xFF]
  | authentication (greeting tail : Bytes) (status : UInt8) (greets : Greeting auth greeting)
      (refused : ∀ credentials rest, Credentials auth credentials → tail ≠ credentials ++ rest)
      (nonzero : status ≠ 0) :
      Refusal auth (greeting ++ tail) ([0x05, selectedMethod auth] ++ [0x01, status])
  | request (greeting credentials tail reply : Bytes) (greets : Greeting auth greeting)
      (known : Credentials auth credentials)
      (refused : ∀ target port rest, tail ≠ connectRequest target port ++ rest)
      (size : reply.length = 10) (nonzero : reply.getD 1 0 ≠ 0) :
      Refusal auth (greeting ++ credentials ++ tail)
        ([0x05, selectedMethod auth] ++ authStatus auth ++ reply)

/-- Octets that are not the encoding of any text. -/
def NotUtf8 (bs : Bytes) : Prop := ∀ text : String, bs ≠ utf8 text

/-- Octets behind their number. -/
def countedOctets (bs : Bytes) : Bytes := UInt8.ofNat bs.length :: bs

/-- The credentials reach a name or a password that is not UTF-8. -/
inductive UndecodableCredentials : Bytes → Prop
  | username (name rest : Bytes) (fits : name.length < 256) (invalid : NotUtf8 name) :
      UndecodableCredentials (0x01 :: (countedOctets name ++ rest))
  | password (username : String) (password rest : Bytes) (fitsName : (utf8 username).length < 256)
      (fits : password.length < 256) (invalid : NotUtf8 password) :
      UndecodableCredentials (0x01 :: (counted username ++ (countedOctets password ++ rest)))

/-- A connect request for an unknown address type or a host name that is not UTF-8. -/
inductive UndecodableRequest : Bytes → Prop
  | atyp (atyp : UInt8) (rest : Bytes) (unknown : atyp ≠ 0x01 ∧ atyp ≠ 0x03 ∧ atyp ≠ 0x04) :
      UndecodableRequest (0x05 :: 0x01 :: 0x00 :: atyp :: rest)
  | host (name rest : Bytes) (fits : name.length < 256) (invalid : NotUtf8 name) :
      UndecodableRequest (0x05 :: 0x01 :: 0x00 :: 0x03 :: (countedOctets name ++ rest))

/-- The streams that reach one of the exits without a refusal. -/
inductive Unanswered (auth : Option SocksAuthConfig) : Bytes → Prop
  | credentials (greeting tail : Bytes) (greets : Greeting auth greeting) (asked : auth.isSome)
      (undecodable : UndecodableCredentials tail) : Unanswered auth (greeting ++ tail)
  | request (greeting credentials tail : Bytes) (greets : Greeting auth greeting)
      (known : Credentials auth credentials) (undecodable : UndecodableRequest tail) :
      Unanswered auth (greeting ++ credentials ++ tail)

/-! ## Where the reads fail -/

theorem readOrFail_error {n : Nat} {s t : Duplex} {e : SocksError}
    (h : (readOrFail n).run s = (.error e, t)) : e = .io .unexpectedEof :=
  (readExact_error_iff.mp h).1

theorem notUtf8_iff (bs : Bytes) : NotUtf8 bs ↔ fromUtf8 bs = none := by
  unfold NotUtf8
  rw [Option.eq_none_iff_forall_ne_some]
  simp only [ne_eq, fromUtf8_eq_some_iff]

theorem stringOrFail_error_iff {bs : Bytes} {s t : Duplex} {e : SocksError} :
    (stringOrFail bs).run s = (.error e, t) ↔ NotUtf8 bs ∧ e = .parseError bs ∧ s = t := by
  rw [notUtf8_iff]
  unfold stringOrFail
  cases fromUtf8 bs with
  | some text => simp
  | none => simp [eq_comm]

/-- A counted text fails at the end of the stream, or for octets that are not UTF-8. -/
theorem readCounted_error {s t : Duplex} {e : SocksError} (h : readCounted.run s = (.error e, t)) :
    e = .io .unexpectedEof ∨ ∃ bs, bs.length < 256 ∧ NotUtf8 bs ∧
      s.input = countedOctets bs ++ t.input ∧ t.output = s.output := by
  unfold readCounted at h
  rcases bind_error_iff.mp h with hlen | ⟨len, r1, hlen, h⟩
  · exact .inl (readOrFail_error hlen)
  obtain ⟨hin1, hsize1, hout1⟩ := readOrFail_ok_iff.mp hlen
  obtain ⟨n, rfl⟩ := List.length_eq_one_iff.mp hsize1
  rcases bind_error_iff.mp h with hvalue | ⟨value, r2, hvalue, h⟩
  · exact .inl (readOrFail_error hvalue)
  obtain ⟨hin2, hsize2, hout2⟩ := readOrFail_ok_iff.mp hvalue
  obtain ⟨hinvalid, -, rfl⟩ := stringOrFail_error_iff.mp h
  have hn : n = UInt8.ofNat value.length := by
    rw [hsize2]
    simp
  have hlt := n.toNat_lt
  simp only [List.getD_cons_zero] at hsize2
  refine .inr ⟨value, by omega, hinvalid, ?_, hout2.trans hout1⟩
  rw [hin1, hin2, countedOctets, hn]
  simp

theorem readCounted_undecodable (bs rest out : Bytes) (fits : bs.length < 256) (invalid : NotUtf8 bs) :
    readCounted.run ⟨countedOctets bs ++ rest, out⟩ = (.error (.parseError bs), ⟨rest, out⟩) := by
  have hlen : (readOrFail 1).run ⟨countedOctets bs ++ rest, out⟩ =
      (.ok [UInt8.ofNat bs.length], ⟨bs ++ rest, out⟩) :=
    readOrFail_ok_iff.mpr ⟨rfl, rfl, rfl⟩
  have hvalue : (readOrFail (UInt8.ofNat bs.length).toNat).run ⟨bs ++ rest, out⟩ =
      (.ok bs, ⟨rest, out⟩) :=
    readOrFail_ok_iff.mpr ⟨rfl, by rw [UInt8.toNat_ofNat']; omega, rfl⟩
  unfold readCounted
  rw [bind_of_ok hlen]
  simp only [List.getD_cons_zero]
  rw [bind_of_ok hvalue]
  exact stringOrFail_error_iff.mpr ⟨invalid, rfl, rfl⟩

/-! ## Authentication -/

/-- Authentication fails for want of octets, with a refusal, or on undecodable credentials. -/
theorem authenticateUser_error {cfg : SocksAuthConfig} {s t : Duplex} {e : SocksError}
    (h : (authenticateUser cfg).run s = (.error e, t)) :
    e = .io .unexpectedEof ∨ t.output = s.output ++ [0x01, 0x01] ∨
      (UndecodableCredentials s.input ∧ t.output = s.output) := by
  unfold authenticateUser at h
  rw [readAuthField_eq] at h
  rcases bind_error_iff.mp h with hversion | ⟨version, r1, hversion, h⟩
  · exact .inl (readOrFail_error hversion)
  obtain ⟨hin1, hsize, hout1⟩ := readOrFail_ok_iff.mp hversion
  obtain ⟨v, rfl⟩ := List.length_eq_one_iff.mp hsize
  split at h
  · rcases bind_error_iff.mp h with hwrite | ⟨_, r2, hwrite, h⟩
    · exact (writeAll_error_iff.mp hwrite).elim
    · obtain rfl := writeAll_ok_iff.mp hwrite
      obtain ⟨-, rfl⟩ := fail_error_iff.mp h
      exact .inr (.inl (by rw [hout1]))
  · rename_i hv
    obtain rfl : v = 0x01 := by simpa using hv
    rcases bind_error_iff.mp h with hname | ⟨username, r2, hname, h⟩
    · rcases readCounted_error hname with heof | ⟨bs, hfits, hinvalid, hin, hout⟩
      · exact .inl heof
      · refine .inr (.inr ⟨?_, hout.trans hout1⟩)
        rw [hin1, hin]
        exact .username bs t.input hfits hinvalid
    obtain ⟨hfits2, hin2, hout2⟩ := readCounted_ok_iff.mp hname
    rcases bind_error_iff.mp h with hpass | ⟨password, r3, hpass, h⟩
    · rcases readCounted_error hpass with heof | ⟨bs, hfits, hinvalid, hin, hout⟩
      · exact .inl heof
      · refine .inr (.inr ⟨?_, hout.trans (hout2.trans hout1)⟩)
        rw [hin1, hin2, hin]
        exact .password username bs t.input hfits2 hfits hinvalid
    obtain ⟨-, -, hout3⟩ := readCounted_ok_iff.mp hpass
    rcases bind_error_iff.mp h with hwrite | ⟨_, r4, hwrite, h⟩
    · exact (writeAll_error_iff.mp hwrite).elim
    obtain rfl := writeAll_ok_iff.mp hwrite
    split at h
    · exact (pure_error_iff.mp h).elim
    · obtain ⟨-, rfl⟩ := fail_error_iff.mp h
      exact .inr (.inl (by simp [hout3, hout2, hout1]))

/-- On undecodable credentials nothing is written. -/
theorem authenticateUser_undecodable (cfg : SocksAuthConfig) (tail out : Bytes)
    (undecodable : UndecodableCredentials tail) :
    ∃ e t, (authenticateUser cfg).run ⟨tail, out⟩ = (.error e, t) ∧ t.output = out := by
  have hversion : ∀ rest : Bytes, (readOrFail 1).run ⟨0x01 :: rest, out⟩ = (.ok [0x01], ⟨rest, out⟩) :=
    fun rest => readOrFail_ok_iff.mpr ⟨rfl, rfl, rfl⟩
  unfold authenticateUser
  rw [readAuthField_eq]
  cases undecodable with
  | username name rest fits invalid =>
    rw [bind_of_ok (hversion _), if_neg (by simp),
      bind_of_error (readCounted_undecodable name rest out fits invalid)]
    exact ⟨_, _, rfl, rfl⟩
  | password username password rest fitsName fits invalid =>
    have hname : readCounted.run ⟨counted username ++ (countedOctets password ++ rest), out⟩ =
        (.ok username, ⟨countedOctets password ++ rest, out⟩) :=
      readCounted_ok_iff.mpr ⟨fitsName, rfl, rfl⟩
    rw [bind_of_ok (hversion _), if_neg (by simp), bind_of_ok hname,
      bind_of_error (readCounted_undecodable password rest out fits invalid)]
    exact ⟨_, _, rfl, rfl⟩

/-! ## The request -/

theorem readTargetAddress_error {atyp : UInt8} {s t : Duplex} {e : SocksError}
    (h : (readTargetAddress atyp).run s = (.error e, t)) :
    e = .io .unexpectedEof ∨ (t.output = s.output ∧
      ((atyp ≠ 0x01 ∧ atyp ≠ 0x03 ∧ atyp ≠ 0x04) ∨ (atyp = 0x03 ∧ ∃ bs, bs.length < 256 ∧
        NotUtf8 bs ∧ s.input = countedOctets bs ++ t.input))) := by
  by_cases hname : atyp = 0x03
  · subst hname
    rw [readTargetAddress_name] at h
    rcases readCounted_error h with heof | ⟨bs, hfits, hinvalid, hin, hout⟩
    · exact .inl heof
    · exact .inr ⟨hout, .inr ⟨rfl, bs, hfits, hinvalid, hin⟩⟩
  unfold readTargetAddress at h
  rw [if_neg hname] at h
  split at h
  · rcases bind_error_iff.mp h with haddr | ⟨addr, r, -, h⟩
    · exact .inl (readOrFail_error haddr)
    · exact (pure_error_iff.mp h).elim
  · rename_i hipv4
    split at h
    · rcases bind_error_iff.mp h with haddr | ⟨addr, r, -, h⟩
      · exact .inl (readOrFail_error haddr)
      · exact (pure_error_iff.mp h).elim
    · rename_i hipv6
      obtain ⟨-, rfl⟩ := fail_error_iff.mp h
      exact .inr ⟨rfl, .inl ⟨hipv4, hname, hipv6⟩⟩

theorem readTargetAddress_unknown (atyp : UInt8) (s : Duplex)
    (unknown : atyp ≠ 0x01 ∧ atyp ≠ 0x03 ∧ atyp ≠ 0x04) :
    (readTargetAddress atyp).run s = (.error .unsupportedAddressType, s) := by
  rw [readTargetAddress, if_neg unknown.1, if_neg unknown.2.1, if_neg unknown.2.2, fail_run]

/-- A request fails for want of octets, with a refusal, or on an address it cannot decode. -/
theorem answerRequest_error {s t : Duplex} {e : SocksError}
    (h : answerRequest.run s = (.error e, t)) :
    e = .io .unexpectedEof ∨ t.output = s.output ++ commandRefused ∨
      (UndecodableRequest s.input ∧ t.output = s.output) := by
  unfold answerRequest at h
  rcases bind_error_iff.mp h with hreq | ⟨req, r1, hreq, h⟩
  · exact .inl (readOrFail_error hreq)
  obtain ⟨hin1, hsize, hout1⟩ := readOrFail_ok_iff.mp hreq
  split at h
  · rcases bind_error_iff.mp h with hwrite | ⟨_, r2, hwrite, h⟩
    · exact (writeAll_error_iff.mp hwrite).elim
    · obtain rfl := writeAll_ok_iff.mp hwrite
      obtain ⟨-, rfl⟩ := fail_error_iff.mp h
      exact .inr (.inl (by rw [hout1]))
  rename_i command
  rcases bind_error_iff.mp h with htarget | ⟨target, r2, htarget, h⟩
  · rcases readTargetAddress_error htarget with heof | ⟨hout, hcause⟩
    · exact .inl heof
    · refine .inr (.inr ⟨?_, hout.trans hout1⟩)
      match req, hsize with
      | [a, b, c, atyp], _ =>
        simp only [List.getD_cons_zero, List.getD_cons_succ, ne_eq, not_or, Decidable.not_not] at command hcause
        obtain ⟨rfl, rfl, rfl⟩ := command
        rcases hcause with hunknown | ⟨rfl, bs, hfits, hinvalid, hin⟩
        · rw [hin1]
          exact .atyp atyp r1.input hunknown
        · rw [hin1, hin]
          exact .host bs t.input hfits hinvalid
  rcases bind_error_iff.mp h with hport | ⟨port, r3, -, h⟩
  · exact .inl (readOrFail_error hport)
  rcases bind_error_iff.mp h with hwrite | ⟨_, r4, -, h⟩
  · exact (writeAll_error_iff.mp hwrite).elim
  · exact (pure_error_iff.mp h).elim

/-- On an address that cannot be decoded nothing is written. -/
theorem answerRequest_undecodable (tail out : Bytes) (undecodable : UndecodableRequest tail) :
    ∃ e t, answerRequest.run ⟨tail, out⟩ = (.error e, t) ∧ t.output = out := by
  have hreq : ∀ (atyp : UInt8) (rest : Bytes),
      (readOrFail 4).run ⟨0x05 :: 0x01 :: 0x00 :: atyp :: rest, out⟩ =
        (.ok [0x05, 0x01, 0x00, atyp], ⟨rest, out⟩) :=
    fun atyp rest => readOrFail_ok_iff.mpr ⟨rfl, rfl, rfl⟩
  unfold answerRequest
  cases undecodable with
  | atyp atyp rest unknown =>
    rw [bind_of_ok (hreq atyp rest), if_neg (by simp)]
    simp only [List.getD_cons_zero, List.getD_cons_succ]
    rw [bind_of_error (readTargetAddress_unknown atyp ⟨rest, out⟩ unknown)]
    exact ⟨_, _, rfl, rfl⟩
  | host name rest fits invalid =>
    rw [bind_of_ok (hreq 0x03 _), if_neg (by simp)]
    simp only [List.getD_cons_zero, List.getD_cons_succ]
    rw [readTargetAddress_name,
      bind_of_error (readCounted_undecodable name rest out fits invalid)]
    exact ⟨_, _, rfl, rfl⟩

/-! ## The whole handshake -/

/-- A handshake that starts in the right version is cut short in the greeting, refused for
want of a method, or goes on behind the greeting. -/
theorem handshake_greeting_cases (auth : Option SocksAuthConfig) (rest out : Bytes) :
    (∃ t, (handleSocks5Handshake auth).run ⟨0x05 :: rest, out⟩ = (.error (.io .unexpectedEof), t)) ∨
    (∃ n methods tail, methods.length = n.toNat ∧ selectedMethod auth ∉ methods ∧
      rest = n :: (methods ++ tail) ∧
      (handleSocks5Handshake auth).run ⟨0x05 :: rest, out⟩ =
        (.error .noAcceptableMethod, ⟨tail, out ++ [0x05, 0xFF]⟩)) ∨
    ∃ greeting tail, Greeting auth greeting ∧ 0x05 :: rest = greeting ++ tail := by
  match rest with
  | [] =>
    have hhdr : (readOrFail 2).run ⟨[0x05], out⟩ = (.error (.io .unexpectedEof), ⟨[], out⟩) := rfl
    left
    unfold handleSocks5Handshake
    rw [bind_of_error hhdr]
    exact ⟨_, rfl⟩
  | n :: more =>
    have hhdr : (readOrFail 2).run ⟨0x05 :: n :: more, out⟩ = (.ok [0x05, n], ⟨more, out⟩) := rfl
    rcases Nat.lt_or_ge more.length n.toNat with hshort | henough
    · left
      unfold handleSocks5Handshake
      rw [bind_of_ok hhdr, if_neg (by simp)]
      simp only [List.getD_cons_succ, List.getD_cons_zero]
      rw [readOrFail, bind_of_error (readExact_short _ n.toNat more out hshort)]
      exact ⟨_, rfl⟩
    · right
      have hsize : (more.take n.toNat).length = n.toNat := by
        rw [List.length_take]
        omega
      have hmore := (List.take_append_drop n.toNat more).symm
      by_cases hoffered : selectedMethod auth ∈ more.take n.toNat
      · right
        have hlt := n.toNat_lt
        refine ⟨0x05 :: n :: more.take n.toNat, more.drop n.toNat, ⟨more.take n.toNat, by omega, hoffered, ?_⟩, ?_⟩
        · rw [hsize]
          simp
        · rw [List.cons_append, List.cons_append, ← hmore]
      · left
        have hmethods : (readOrFail n.toNat).run ⟨more, out⟩ =
            (.ok (more.take n.toNat), ⟨more.drop n.toNat, out⟩) :=
          readOrFail_ok_iff.mpr ⟨hmore, hsize, rfl⟩
        refine ⟨n, more.take n.toNat, more.drop n.toNat, hsize, hoffered, by rw [← hmore], ?_⟩
        unfold handleSocks5Handshake
        rw [bind_of_ok hhdr, if_neg (by simp)]
        simp only [List.getD_cons_succ, List.getD_cons_zero]
        rw [bind_of_ok hmethods, if_pos hoffered, bind_of_ok (writeAll_run _ _),
          fail_run]

/-! ## What was written -/

/-- Nothing was written since the greeting or the authentication was accepted. -/
def Silent (auth : Option SocksAuthConfig) (told : Bytes) : Prop :=
  told = [0x05, selectedMethod auth] ∨ told = [0x05, selectedMethod auth] ++ authStatus auth

theorem selectedMethod_ne (auth : Option SocksAuthConfig) : selectedMethod auth ≠ 0xFF := by
  unfold selectedMethod
  split <;> decide

theorem authStatus_cases (auth : Option SocksAuthConfig) :
    authStatus auth = [] ∨ authStatus auth = [0x01, 0x00] := by
  cases auth with
  | none => exact .inl rfl
  | some cfg => exact .inr rfl

theorem silent_length (auth : Option SocksAuthConfig) (told : Bytes) (silent : Silent auth told) :
    told.length ≤ 4 := by
  have hstatus : (authStatus auth).length ≤ 2 := by
    rcases authStatus_cases auth with h | h <;> simp [h]
  rcases silent with rfl | rfl
  · simp
  · simp only [List.length_append, List.length_cons, List.length_nil]
    omega

theorem refusal_not_silent (auth : Option SocksAuthConfig) (input told : Bytes)
    (refusal : Refusal auth input told) : ¬ Silent auth told := by
  intro silent
  have hlen := silent_length auth told silent
  cases refusal with
  | method n methods rest size missing =>
    rcases silent with h | h
    · exact selectedMethod_ne auth (by simpa using h.symm)
    · simp only [List.cons_append, List.cons.injEq, true_and] at h
      exact selectedMethod_ne auth h.1.symm
  | authentication greeting tail status greets refused nonzero =>
    rcases silent with h | h
    · simp at h
    · have hstatus : [0x01, status] = authStatus auth := List.append_cancel_left h
      rcases authStatus_cases auth with hnone | hsome
      · rw [hnone] at hstatus
        cases hstatus
      · rw [hsome] at hstatus
        exact nonzero (by simpa using hstatus)
  | request greeting credentials tail reply greets known refused size nonzero =>
    simp only [List.length_append, List.length_cons, List.length_nil, size] at hlen
    omega

/-- A refusal does not end in the success reply. -/
theorem refusal_not_success (auth : Option SocksAuthConfig) (input told : Bytes)
    (refusal : Refusal auth input told) : ¬ successReply <:+ told := by
  intro hsuffix
  have hlen := hsuffix.length_le
  cases refusal with
  | method n methods rest size missing => simp [successReply] at hlen
  | authentication greeting tail status greets refused nonzero => simp [successReply] at hlen
  | request greeting credentials tail reply greets known refused size nonzero =>
    have hreply : successReply = reply := by
      obtain ⟨front, hfront⟩ := hsuffix
      exact (List.append_inj' hfront (by simp [successReply, size])).2
    rw [← hreply] at nonzero
    exact nonzero rfl

/-- Every failing handshake: an end of stream, a refusal, or an exit that writes nothing. -/
theorem handshake_error (auth : Option SocksAuthConfig) (rest : Bytes) (e : SocksError) (t : Duplex)
    (h : (handleSocks5Handshake auth).run ⟨0x05 :: rest, []⟩ = (.error e, t)) :
    e = .io .unexpectedEof ∨ Refusal auth (0x05 :: rest) t.output ∨
      (Unanswered auth (0x05 :: rest) ∧ Silent auth t.output) := by
  rcases handshake_greeting_cases auth rest [] with ⟨t', heof⟩ |
    ⟨n, methods, tail, size, missing, rfl, hrefused⟩ | ⟨greeting, tail, greets, hinput⟩
  · rw [heof] at h
    exact .inl (Except.error.inj (Prod.mk.inj h).1).symm
  · rw [hrefused] at h
    obtain ⟨-, rfl⟩ := Prod.mk.inj h
    exact .inr (.inl (.method n methods tail size missing))
  · -- a tail of the grammar would have been accepted
    have hgrammar : ∀ credentials more target port, Credentials auth credentials →
        tail ≠ credentials ++ (connectRequest target port ++ more) := by
      intro credentials more target port known heq
      have hok := run_of_handshake auth (0x05 :: rest) [] (greeting ++ credentials ++ connectRequest target port)
        target port ⟨more, [] ++ replies auth⟩ ⟨greeting, credentials, greets, known, rfl⟩
        (by rw [hinput, heq]; simp) rfl
      rw [h] at hok
      cases (Prod.mk.inj hok).1
    rw [hinput, handshake_behind_greeting auth greeting tail [] greets, List.nil_append] at h
    rw [hinput]
    rcases bind_error_iff.mp h with hauth | ⟨u, r, hauth, hrequest⟩
    · cases auth with
      | none => exact (pure_error_iff.mp hauth).elim
      | some cfg =>
        have hrefused : ∀ credentials more, Credentials (some cfg) credentials →
            tail ≠ credentials ++ more := by
          intro credentials more known heq
          have hok : (authenticateUser cfg).run ⟨tail, [0x05, selectedMethod (some cfg)]⟩ =
              (.ok (), ⟨more, [0x05, selectedMethod (some cfg)] ++ [0x01, 0x00]⟩) :=
            authenticateUser_ok_iff.mpr ⟨credentials, known, heq, rfl⟩
          rw [authenticate, hok] at hauth
          cases (Prod.mk.inj hauth).1
        rcases authenticateUser_error hauth with heof | htold | ⟨undecodable, htold⟩
        · exact .inl heof
        · rw [htold]
          exact .inr (.inl (.authentication greeting tail 0x01 greets hrefused (by decide)))
        · exact .inr (.inr ⟨.credentials greeting tail greets rfl undecodable, .inl htold⟩)
    · obtain ⟨credentials, known, hin, hout⟩ := authenticate_ok_iff.mp hauth
      have hout' : r.output = [0x05, selectedMethod auth] ++ authStatus auth := hout
      dsimp only at hin
      rw [hin, ← List.append_assoc]
      rcases answerRequest_error hrequest with heof | htold | ⟨undecodable, htold⟩
      · exact .inl heof
      · rw [htold, hout']
        refine .inr (.inl (.request greeting credentials r.input commandRefused greets known ?_ rfl
          (by decide)))
        intro target port more heq
        exact hgrammar credentials more target port known (by rw [hin, heq])
      · exact .inr (.inr ⟨.request greeting credentials r.input greets known undecodable,
          .inr (htold.trans hout')⟩)

/-- The streams without an answer fail, with nothing written. -/
theorem handshake_unanswered (auth : Option SocksAuthConfig) (input : Bytes)
    (unanswered : Unanswered auth input) :
    ∃ e t, (handleSocks5Handshake auth).run ⟨input, []⟩ = (.error e, t) ∧ Silent auth t.output := by
  cases unanswered with
  | credentials greeting tail greets asked undecodable =>
    rw [handshake_behind_greeting auth greeting tail [] greets]
    cases auth with
    | none => cases asked
    | some cfg =>
      obtain ⟨e, t, hrun, hout⟩ := authenticateUser_undecodable cfg tail
        ([] ++ [0x05, selectedMethod (some cfg)]) undecodable
      exact ⟨e, t, bind_of_error hrun, .inl hout⟩
  | request greeting credentials tail greets known undecodable =>
    rw [List.append_assoc, handshake_behind_greeting auth greeting _ [] greets]
    have hauth : (authenticate auth).run
        ⟨credentials ++ tail, [] ++ [0x05, selectedMethod auth]⟩ =
        (.ok (), ⟨tail, [0x05, selectedMethod auth] ++ authStatus auth⟩) :=
      authenticate_ok_iff.mpr ⟨credentials, known, rfl, rfl⟩
    obtain ⟨e, t, hrun, hout⟩ := answerRequest_undecodable tail
      ([0x05, selectedMethod auth] ++ authStatus auth) undecodable
    refine ⟨e, t, ?_, .inr hout⟩
    rw [behindGreeting, bind_of_ok hauth, hrun]

/-- What the client is told: a refusal of the phase reached with every error, and the success
reply with nothing else than success. -/
def ToldSo (auth : Option SocksAuthConfig) (input : Bytes) : Prop :=
  let (result, after) := (handleSocks5Handshake auth).run ⟨input, []⟩
  (∀ err, result = .error err → Refusal auth input after.output) ∧
    ((∃ command, result = .ok command) ↔ successReply <:+ after.output)

/-- Where no read fails, a client in the right version is told what happens to it exactly if its
stream does not reach credentials or an address that cannot be decoded. -/
theorem refused_client_told_iff (auth : Option SocksAuthConfig) (input : Bytes)
    (version : input.head? = some 0x05)
    (reads : ∀ err, ((handleSocks5Handshake auth).run ⟨input, []⟩).1 ≠ .error (.io err)) :
    ToldSo auth input ↔ ¬ Unanswered auth input := by
  obtain ⟨rest, rfl⟩ : ∃ rest, input = 0x05 :: rest := List.head?_eq_some_iff.mp version
  unfold ToldSo
  cases hrun : (handleSocks5Handshake auth).run ⟨0x05 :: rest, []⟩ with
  | mk result after =>
    cases result with
    | ok command =>
      obtain ⟨host, port⟩ := command
      obtain ⟨-, -, -, -, hout, -, -⟩ := handshake_of_run auth (0x05 :: rest) [] host port after hrun
      have hsuccess : successReply <:+ after.output := by
        rw [hout, replies]
        exact ⟨_, (List.append_assoc _ _ _)⟩
      have hanswered : ¬ Unanswered auth (0x05 :: rest) := by
        intro hunanswered
        obtain ⟨e, t, herror, -⟩ := handshake_unanswered auth _ hunanswered
        rw [hrun] at herror
        cases (Prod.mk.inj herror).1
      simp [hsuccess, hanswered]
    | error e =>
      have hio : e ≠ .io .unexpectedEof := by
        rintro rfl
        exact reads .unexpectedEof (by rw [hrun])
      have hkind := (handshake_error auth rest e after hrun).resolve_left hio
      constructor
      · intro htold hunanswered
        obtain ⟨e', t, herror, hsilent⟩ := handshake_unanswered auth _ hunanswered
        rw [hrun] at herror
        obtain ⟨-, rfl⟩ := Prod.mk.inj herror
        exact refusal_not_silent auth _ _ (htold.1 e rfl) hsilent
      · intro hanswered
        have hrefusal := hkind.resolve_right fun h => hanswered h.1
        refine ⟨fun err _ => hrefusal, ?_⟩
        constructor
        · rintro ⟨command, hcommand⟩
          cases hcommand
        · exact fun hsuccess => (refusal_not_success auth _ _ hrefusal hsuccess).elim

/-- A request to bind, behind a greeting without authentication. -/
def bindRequest : Bytes := [5, 1, 0, 5, 2, 0, 1]

theorem refused_client_told_iff_bind : ToldSo none bindRequest := by
  have hrun : (handleSocks5Handshake none).run ⟨bindRequest, []⟩ =
      (.error .unsupportedCommand, ⟨[], [5, 0] ++ commandRefused⟩) := by
    decide +kernel
  refine (refused_client_told_iff none bindRequest rfl ?_).mpr ?_
  · intro err h
    rw [hrun] at h
    cases h
  · intro hunanswered
    obtain ⟨e, t, herror, hsilent⟩ := handshake_unanswered none bindRequest hunanswered
    rw [hrun] at herror
    obtain ⟨-, rfl⟩ := Prod.mk.inj herror
    have hlen := silent_length none _ hsilent
    simp [commandRefused] at hlen

/-- A connect request with address type `05`. -/
def unknownTypeRequest : Bytes := [5, 1, 0, 5, 1, 0, 5]

/-- A name of one octet that no text has. -/
def badNameRequest : Bytes := [5, 1, 2, 1, 1, 0xFF]

/-- An unknown address type and a name that is not UTF-8: each is an error without a refusal. -/
theorem undecodable_unanswered :
    (handleSocks5Handshake none).run ⟨unknownTypeRequest, []⟩ =
        (.error .unsupportedAddressType, ⟨[], [5, 0]⟩) ∧
      (handleSocks5Handshake (some ⟨[⟨"alice", "one"⟩]⟩)).run ⟨badNameRequest, []⟩ =
        (.error (.parseError [0xFF]), ⟨[], [5, 2]⟩) ∧
      ¬ ToldSo none unknownTypeRequest ∧ ¬ ToldSo (some ⟨[⟨"alice", "one"⟩]⟩) badNameRequest := by
  have hrequest : (handleSocks5Handshake none).run ⟨unknownTypeRequest, []⟩ =
      (.error .unsupportedAddressType, ⟨[], [5, 0]⟩) := by
    decide +kernel
  have hname : (handleSocks5Handshake (some ⟨[⟨"alice", "one"⟩]⟩)).run ⟨badNameRequest, []⟩ =
      (.error (.parseError [0xFF]), ⟨[], [5, 2]⟩) := by
    decide +kernel
  refine ⟨hrequest, hname, ?_, ?_⟩
  · intro told
    unfold ToldSo at told
    rw [hrequest] at told
    exact refusal_not_silent none _ _ (told.1 _ rfl) (.inl rfl)
  · intro told
    unfold ToldSo at told
    rw [hname] at told
    exact refusal_not_silent _ _ _ (told.1 _ rfl) (.inl rfl)

end TgWsProxy.Guarantees.SocksRefusals
