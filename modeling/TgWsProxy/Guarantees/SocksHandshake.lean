import TgWsProxy.Source.Socks
import TgWsProxy.Source.Std.IpAddrText

/-!
# What the SOCKS5 handshake accepts

The accepted streams are a greeting that offers the method in force, the
credentials of a configured user when there are users, and a connect request;
`Handshake` is that grammar. `handshake_accepts_iff` reads it in both directions,
with the octets consumed, the octets written and the target returned.
-/

set_option autoImplicit false

namespace TgWsProxy.Guarantees.SocksHandshake
open Library Library.Io Source.Std Source.Socks

/-! ## The grammar -/

/-- A text behind its length in one octet. -/
def counted (s : String) : Bytes := UInt8.ofNat (utf8 s).length :: utf8 s

inductive Target where
  | ipv4 (octets : Bytes) (size : octets.length = 4)
  | name (host : String) (fits : (utf8 host).length < 256)
  | ipv6 (octets : Bytes) (size : octets.length = 16)

def Target.atyp (target : Target) : UInt8 :=
  match target with
  | .ipv4 _ _ => 0x01
  | .name _ _ => 0x03
  | .ipv6 _ _ => 0x04

def Target.body (target : Target) : Bytes :=
  match target with
  | .ipv4 octets _ | .ipv6 octets _ => octets
  | .name host _ => counted host

/-- The text that names the target to the router. -/
def Target.host (target : Target) : String :=
  match target with
  | .ipv4 octets _ => (Ipv4Addr.ofOctets octets).toString
  | .name host _ => host
  | .ipv6 octets _ => (Ipv6Addr.ofOctets octets).toString

/-- The text is the name sent, or parses back to the address octets sent. -/
def Target.NamedBy (target : Target) (host : String) : Prop :=
  match target with
  | .ipv4 octets _ => ∃ ip, IpAddr.fromStr host = some (.v4 ip) ∧ ip.octets = octets
  | .name sent _ => host = sent
  | .ipv6 octets _ => ∃ ip, IpAddr.fromStr host = some (.v6 ip) ∧ ip.octets = octets

def Greeting (auth : Option SocksAuthConfig) (bs : Bytes) : Prop :=
  ∃ methods : Bytes, methods.length < 256 ∧ selectedMethod auth ∈ methods ∧
    bs = 0x05 :: UInt8.ofNat methods.length :: methods

/-- One configured user's name and password; nothing without users. -/
def Credentials (auth : Option SocksAuthConfig) (bs : Bytes) : Prop :=
  match auth with
  | none => bs = []
  | some cfg => ∃ user ∈ cfg.users, (utf8 user.username).length < 256 ∧
      (utf8 user.password).length < 256 ∧ bs = 0x01 :: (counted user.username ++ counted user.password)

def connectRequest (target : Target) (port : UInt16) : Bytes :=
  0x05 :: 0x01 :: 0x00 :: target.atyp :: (target.body ++ toBE 2 port.toNat)

def Handshake (auth : Option SocksAuthConfig) (target : Target) (port : UInt16) (bs : Bytes) : Prop :=
  ∃ greeting credentials, Greeting auth greeting ∧ Credentials auth credentials ∧
    bs = greeting ++ credentials ++ connectRequest target port

/-- What the client is told when it is accepted. -/
def replies (auth : Option SocksAuthConfig) : Bytes :=
  [0x05, selectedMethod auth] ++ (if auth.isSome then [0x01, 0x00] else []) ++ successReply

/-! ## The reads -/

theorem readOrFail_ok_iff {n : Nat} {bs : Bytes} {s t : Duplex} :
    (readOrFail n).run s = (.ok bs, t) ↔
      s.input = bs ++ t.input ∧ bs.length = n ∧ t.output = s.output :=
  readExact_ok_iff

theorem stringOrFail_ok_iff {bs : Bytes} {text : String} {s t : Duplex} :
    (stringOrFail bs).run s = (.ok text, t) ↔ bs = utf8 text ∧ s = t := by
  unfold stringOrFail
  split
  · rename_i found hfound
    rw [pure_ok_iff, ← fromUtf8_eq_some_iff, hfound, Option.some.injEq]
  · rename_i hnone
    rw [fail_ok_iff, ← fromUtf8_eq_some_iff, hnone]
    simp

/-- A length octet, as many octets, and their text. -/
def readCounted : Io SocksError String := do
  let len ← readOrFail 1
  let value ← readOrFail (len.getD 0 0).toNat
  stringOrFail value

theorem readCounted_ok_iff {text : String} {s t : Duplex} :
    readCounted.run s = (.ok text, t) ↔
      (utf8 text).length < 256 ∧ s.input = counted text ++ t.input ∧ t.output = s.output := by
  unfold readCounted
  simp only [bind_ok_iff, readOrFail_ok_iff, stringOrFail_ok_iff]
  constructor
  · intro h
    obtain ⟨len, r1, ⟨hin1, hlen, hout1⟩, value, r2, ⟨hin2, hsize, hout2⟩, rfl, rfl⟩ := h
    obtain ⟨n, rfl⟩ := List.length_eq_one_iff.mp hlen
    have hn : n = UInt8.ofNat (utf8 text).length := by
      rw [hsize]
      simp
    have hlt := n.toNat_lt
    simp only [List.getD_cons_zero] at hsize
    refine ⟨by omega, ?_, hout2.trans hout1⟩
    rw [hin1, hin2, counted, hn]
    simp
  · intro ⟨hlt, hin, hout⟩
    refine ⟨[UInt8.ofNat (utf8 text).length], ⟨utf8 text ++ t.input, t.output⟩,
      ⟨by rw [hin, counted]; rfl, rfl, hout⟩, utf8 text, t, ⟨rfl, ?_, rfl⟩, rfl, rfl⟩
    simp only [List.getD_cons_zero, UInt8.toNat_ofNat']
    omega

theorem readAuthField_eq : readAuthField = readCounted := rfl

theorem readTargetAddress_name : readTargetAddress 0x03 = readCounted := rfl

theorem Ipv4Addr.octets_ofOctets (bs : Bytes) (size : bs.length = 4) :
    (Ipv4Addr.ofOctets bs).octets = bs := by
  match bs, size with
  | [a, b, c, d], _ => rfl

theorem octetPair (high low : UInt8) :
    toBE 2 (UInt16.ofNat (ofBE [high, low])).toNat = [high, low] := by
  have hlt := ofBE_lt [high, low]
  simp only [List.length_cons, List.length_nil] at hlt
  rw [UInt16.toNat_ofNat', Nat.mod_eq_of_lt (by omega)]
  exact toBE_ofBE [high, low]

theorem Ipv6Addr.octets_ofOctets (bs : Bytes) (size : bs.length = 16) :
    (Ipv6Addr.ofOctets bs).octets = bs := by
  match bs, size with
  | [a0, a1, a2, a3, a4, a5, a6, a7, a8, a9, a10, a11, a12, a13, a14, a15], _ =>
    simp only [Ipv6Addr.octets, Ipv6Addr.ofOctets, List.range_eq_range', List.range', List.map_cons,
      List.map_nil, List.flatMap_cons, List.flatMap_nil, octetPair]
    rfl

/-- The host text stands for exactly the target that was sent. -/
theorem Target.host_named (target : Target) : target.NamedBy target.host := by
  cases target with
  | ipv4 octets size => exact ⟨_, IpAddr.fromStr_ipv4 _, Ipv4Addr.octets_ofOctets octets size⟩
  | name host fits => rfl
  | ipv6 octets size => exact ⟨_, IpAddr.fromStr_ipv6 _, Ipv6Addr.octets_ofOctets octets size⟩

/-! ## The phases -/

theorem authenticateUser_ok_iff {cfg : SocksAuthConfig} {u : Unit} {s t : Duplex} :
    (authenticateUser cfg).run s = (.ok u, t) ↔
      ∃ credentials, Credentials (some cfg) credentials ∧ s.input = credentials ++ t.input ∧
        t.output = s.output ++ [0x01, 0x00] := by
  unfold authenticateUser
  rw [readAuthField_eq]
  constructor
  · intro h
    obtain ⟨version, r1, hversion, h⟩ := bind_ok_iff.mp h
    obtain ⟨hin1, hsize, hout1⟩ := readOrFail_ok_iff.mp hversion
    obtain ⟨v, rfl⟩ := List.length_eq_one_iff.mp hsize
    split at h
    · obtain ⟨_, _, -, h⟩ := bind_ok_iff.mp h
      exact (fail_ok_iff.mp h).elim
    · rename_i hv
      obtain rfl : v = 0x01 := by simpa using hv
      obtain ⟨username, r2, hname, h⟩ := bind_ok_iff.mp h
      obtain ⟨password, r3, hpass, h⟩ := bind_ok_iff.mp h
      obtain ⟨_, r4, hwrite, h⟩ := bind_ok_iff.mp h
      obtain ⟨hfits2, hin2, hout2⟩ := readCounted_ok_iff.mp hname
      obtain ⟨hfits3, hin3, hout3⟩ := readCounted_ok_iff.mp hpass
      obtain rfl := writeAll_ok_iff.mp hwrite
      split at h
      · rename_i accepted
        obtain ⟨-, rfl⟩ := pure_ok_iff.mp h
        obtain ⟨user, huser, hmatch⟩ := List.any_eq_true.mp accepted
        simp only [Bool.and_eq_true, beq_iff_eq] at hmatch
        obtain ⟨rfl, rfl⟩ := hmatch
        refine ⟨_, ⟨user, huser, hfits2, hfits3, rfl⟩, ?_, ?_⟩
        · rw [hin1, hin2, hin3]
          simp
        · dsimp only
          rw [hout3, hout2, hout1]
      · exact (fail_ok_iff.mp h).elim
  · intro ⟨credentials, ⟨user, huser, hname, hpass, hcred⟩, hin, hout⟩
    subst hcred
    have hversion : (readOrFail 1).run s =
        (.ok [0x01], ⟨counted user.username ++ (counted user.password ++ t.input), s.output⟩) :=
      readOrFail_ok_iff.mpr ⟨by rw [hin]; simp, rfl, rfl⟩
    have husername : readCounted.run
        ⟨counted user.username ++ (counted user.password ++ t.input), s.output⟩ =
        (.ok user.username, ⟨counted user.password ++ t.input, s.output⟩) :=
      readCounted_ok_iff.mpr ⟨hname, rfl, rfl⟩
    have hpassword : readCounted.run ⟨counted user.password ++ t.input, s.output⟩ =
        (.ok user.password, ⟨t.input, s.output⟩) :=
      readCounted_ok_iff.mpr ⟨hpass, rfl, rfl⟩
    have accepted : (cfg.users.any fun other =>
        other.username == user.username && other.password == user.password) = true :=
      List.any_eq_true.mpr ⟨user, huser, by simp⟩
    rw [bind_of_ok hversion]
    rw [if_neg (by simp), bind_of_ok husername, bind_of_ok hpassword]
    simp only [accepted, if_true]
    rw [bind_of_ok (writeAll_run _ _), pure_run, ← hout]

theorem authenticate_ok_iff {auth : Option SocksAuthConfig} {u : Unit} {s t : Duplex} :
    (authenticate auth).run s = (.ok u, t) ↔
      ∃ credentials, Credentials auth credentials ∧ s.input = credentials ++ t.input ∧
        t.output = s.output ++ (if auth.isSome then [0x01, 0x00] else []) := by
  cases auth with
  | some cfg =>
    simp only [authenticate, Option.isSome_some, if_true]
    exact authenticateUser_ok_iff
  | none =>
    simp only [authenticate, pure_ok_iff, Credentials, Option.isSome_none, Bool.false_eq_true,
      if_false, List.append_nil]
    constructor
    · intro h
      obtain ⟨-, rfl⟩ := h
      exact ⟨[], rfl, rfl, rfl⟩
    · intro ⟨credentials, hnil, hin, hout⟩
      subst hnil
      obtain ⟨input, output⟩ := s
      obtain ⟨input', output'⟩ := t
      simp only [List.nil_append] at hin hout
      exact ⟨trivial, by rw [hin, hout]⟩

theorem readTargetAddress_ok_iff {atyp : UInt8} {host : String} {s t : Duplex} :
    (readTargetAddress atyp).run s = (.ok host, t) ↔
      ∃ target : Target, atyp = target.atyp ∧ host = target.host ∧
        s.input = target.body ++ t.input ∧ t.output = s.output := by
  constructor
  · intro h
    by_cases hname : atyp = 0x03
    · subst hname
      rw [readTargetAddress_name] at h
      obtain ⟨fits, hin, hout⟩ := readCounted_ok_iff.mp h
      exact ⟨.name host fits, rfl, rfl, hin, hout⟩
    unfold readTargetAddress at h
    split at h
    · rename_i hatyp
      obtain ⟨octets, r, hread, hpure⟩ := bind_ok_iff.mp h
      obtain ⟨hin, hsize, hout⟩ := readOrFail_ok_iff.mp hread
      obtain ⟨rfl, rfl⟩ := pure_ok_iff.mp hpure
      exact ⟨.ipv4 octets hsize, hatyp, rfl, hin, hout⟩
    · split at h
      · rename_i hatyp
        obtain ⟨octets, r, hread, hpure⟩ := bind_ok_iff.mp h
        obtain ⟨hin, hsize, hout⟩ := readOrFail_ok_iff.mp hread
        obtain ⟨rfl, rfl⟩ := pure_ok_iff.mp hpure
        exact ⟨.ipv6 octets hsize, hatyp, rfl, hin, hout⟩
      · exact (fail_ok_iff.mp h).elim
  · intro ⟨target, hatyp, hhost, hin, hout⟩
    subst hatyp hhost
    cases target with
    | ipv4 octets size =>
      exact bind_ok_iff.mpr
        ⟨octets, t, readOrFail_ok_iff.mpr ⟨hin, size, hout⟩, rfl⟩
    | name host fits => exact readCounted_ok_iff.mpr ⟨fits, hin, hout⟩
    | ipv6 octets size =>
      exact bind_ok_iff.mpr
        ⟨octets, t, readOrFail_ok_iff.mpr ⟨hin, size, hout⟩, rfl⟩

/-- The handshake behind an accepted authentication. -/
def answerRequest : Io SocksError SocksCommand := do
  let req ← readOrFail 4
  if req.getD 0 0 ≠ 0x05 ∨ req.getD 1 0 ≠ 0x01 ∨ req.getD 2 0 ≠ 0x00 then do
    writeAll commandRefused
    fail .unsupportedCommand
  else do
    let target ← readTargetAddress (req.getD 3 0)
    let port ← readOrFail 2
    writeAll successReply
    return .connect target (UInt16.ofNat (ofBE port))

/-- The connect request that the last three reads and the command check accept. -/
theorem request_of_reads (req port : Bytes) (target : Target) (s r1 r2 r3 : Duplex)
    (reqSize : req.length = 4)
    (command : ¬ (req.getD 0 0 ≠ 0x05 ∨ req.getD 1 0 ≠ 0x01 ∨ req.getD 2 0 ≠ 0x00))
    (reqIn : s.input = req ++ r1.input) (atyp : req.getD 3 0 = target.atyp)
    (targetIn : r1.input = target.body ++ r2.input) (portSize : port.length = 2)
    (portIn : r2.input = port ++ r3.input) :
    s.input = connectRequest target (UInt16.ofNat (ofBE port)) ++ r3.input := by
  match req, reqSize with
  | [a, b, c, d], _ =>
    simp only [List.getD_cons_zero, List.getD_cons_succ, ne_eq, not_or, Decidable.not_not] at command atyp
    obtain ⟨rfl, rfl, rfl⟩ := command
    obtain ⟨high, low, rfl⟩ := List.length_eq_two.mp portSize
    rw [reqIn, targetIn, portIn, connectRequest, octetPair, ← atyp]
    simp

/-- A request is answered exactly if it names a target. -/
theorem answerRequest_ok_iff {host : String} {port : UInt16} {s t : Duplex} :
    answerRequest.run s = (.ok (.connect host port), t) ↔
      ∃ target : Target, host = target.host ∧ s.input = connectRequest target port ++ t.input ∧
        t.output = s.output ++ successReply := by
  unfold answerRequest
  constructor
  · intro h
    obtain ⟨req, r1, hreq, h⟩ := bind_ok_iff.mp h
    obtain ⟨reqIn, reqSize, reqOut⟩ := readOrFail_ok_iff.mp hreq
    split at h
    · obtain ⟨_, _, -, h⟩ := bind_ok_iff.mp h
      exact (fail_ok_iff.mp h).elim
    rename_i command
    obtain ⟨found, r2, htarget, h⟩ := bind_ok_iff.mp h
    obtain ⟨target, atyp, rfl, targetIn, targetOut⟩ := readTargetAddress_ok_iff.mp htarget
    obtain ⟨portOctets, r3, hport, h⟩ := bind_ok_iff.mp h
    obtain ⟨portIn, portSize, portOut⟩ := readOrFail_ok_iff.mp hport
    obtain ⟨_, r4, hreply, h⟩ := bind_ok_iff.mp h
    obtain rfl := writeAll_ok_iff.mp hreply
    obtain ⟨hcommand, rfl⟩ := pure_ok_iff.mp h
    obtain ⟨rfl, rfl⟩ := SocksCommand.connect.inj hcommand
    refine ⟨target, rfl, ?_, ?_⟩
    · exact request_of_reads req portOctets target s r1 r2 r3 reqSize command reqIn atyp targetIn
        portSize portIn
    · dsimp only
      rw [portOut, targetOut, reqOut]
  · intro ⟨target, hhost, hin, hout⟩
    subst hhost
    have hreq : (readOrFail 4).run s = (.ok [0x05, 0x01, 0x00, target.atyp],
        ⟨target.body ++ (toBE 2 port.toNat ++ t.input), s.output⟩) :=
      readOrFail_ok_iff.mpr ⟨by rw [hin, connectRequest]; simp, rfl, rfl⟩
    have htarget : (readTargetAddress target.atyp).run
        ⟨target.body ++ (toBE 2 port.toNat ++ t.input), s.output⟩ =
        (.ok target.host, ⟨toBE 2 port.toNat ++ t.input, s.output⟩) :=
      readTargetAddress_ok_iff.mpr ⟨target, rfl, rfl, rfl, rfl⟩
    have hport : (readOrFail 2).run ⟨toBE 2 port.toNat ++ t.input, s.output⟩ =
        (.ok (toBE 2 port.toNat), ⟨t.input, s.output⟩) :=
      readOrFail_ok_iff.mpr ⟨rfl, toBE_length 2 port.toNat, rfl⟩
    have hvalue : UInt16.ofNat (ofBE (toBE 2 port.toNat)) = port := by
      have hlt := port.toNat_lt
      rw [ofBE_toBE 2 port.toNat (by omega), UInt16.ofNat_toNat]
    rw [bind_of_ok hreq, if_neg (by simp)]
    simp only [List.getD_cons_succ, List.getD_cons_zero]
    rw [bind_of_ok htarget, bind_of_ok hport,
      bind_of_ok (writeAll_run _ _), pure_run, hvalue, ← hout]

/-! ## The handshake -/

/-- The greeting that the first two reads and the method check accept. -/
theorem greeting_of_reads (auth : Option SocksAuthConfig) (hdr methods : Bytes) (s r1 r2 : Duplex)
    (hdrSize : hdr.length = 2) (version : hdr.getD 0 0 = 0x05) (hdrIn : s.input = hdr ++ r1.input)
    (size : methods.length = (hdr.getD 1 0).toNat) (offered : selectedMethod auth ∈ methods)
    (methodsIn : r1.input = methods ++ r2.input) :
    ∃ greeting, Greeting auth greeting ∧ s.input = greeting ++ r2.input := by
  obtain ⟨a, n, rfl⟩ := List.length_eq_two.mp hdrSize
  obtain rfl : a = 0x05 := version
  have hn : n = UInt8.ofNat methods.length := by
    rw [size]
    simp
  have hlt := n.toNat_lt
  simp only [List.getD_cons_succ, List.getD_cons_zero] at size
  refine ⟨_, ⟨methods, by omega, offered, rfl⟩, ?_⟩
  rw [hdrIn, methodsIn, hn]
  rfl

/-- The handshake behind the greeting. -/
def behindGreeting (auth : Option SocksAuthConfig) : Io SocksError SocksCommand := do
  authenticate auth
  answerRequest

theorem handshake_behind_greeting (auth : Option SocksAuthConfig) (greeting tail out : Bytes)
    (greets : Greeting auth greeting) :
    (handleSocks5Handshake auth).run ⟨greeting ++ tail, out⟩ =
      (behindGreeting auth).run ⟨tail, out ++ [0x05, selectedMethod auth]⟩ := by
  obtain ⟨methods, fits, offered, rfl⟩ := greets
  have hhdr : (readOrFail 2).run ⟨0x05 :: UInt8.ofNat methods.length :: methods ++ tail, out⟩ =
      (.ok [0x05, UInt8.ofNat methods.length], ⟨methods ++ tail, out⟩) :=
    readOrFail_ok_iff.mpr ⟨rfl, rfl, rfl⟩
  have hcount : methods.length = (UInt8.ofNat methods.length).toNat := by
    rw [UInt8.toNat_ofNat']
    omega
  have hmethods : (readOrFail (UInt8.ofNat methods.length).toNat).run ⟨methods ++ tail, out⟩ =
      (.ok methods, ⟨tail, out⟩) :=
    readOrFail_ok_iff.mpr ⟨rfl, hcount, rfl⟩
  unfold handleSocks5Handshake
  rw [bind_of_ok hhdr, if_neg (by simp)]
  simp only [List.getD_cons_succ, List.getD_cons_zero]
  rw [bind_of_ok hmethods, if_neg (Decidable.not_not.mpr offered),
    bind_of_ok (writeAll_run _ _)]
  rfl

/-- A target is returned on a stream of the grammar only. -/
theorem handshake_of_run (auth : Option SocksAuthConfig) (input out : Bytes) (host : String)
    (port : UInt16) (after : Duplex)
    (h : (handleSocks5Handshake auth).run ⟨input, out⟩ = (.ok (.connect host port), after)) :
    ∃ target bs, Handshake auth target port bs ∧ input = bs ++ after.input ∧
      after.output = out ++ replies auth ∧ host = target.host ∧ target.NamedBy host := by
  unfold handleSocks5Handshake at h
  obtain ⟨hdr, r1, hhdr, h⟩ := bind_ok_iff.mp h
  obtain ⟨hdrIn, hdrSize, hdrOut⟩ := readOrFail_ok_iff.mp hhdr
  split at h
  · exact (fail_ok_iff.mp h).elim
  rename_i version
  obtain ⟨methods, r2, hmethods, h⟩ := bind_ok_iff.mp h
  obtain ⟨methodsIn, methodsSize, methodsOut⟩ := readOrFail_ok_iff.mp hmethods
  split at h
  · obtain ⟨_, _, -, h⟩ := bind_ok_iff.mp h
    exact (fail_ok_iff.mp h).elim
  rename_i offered
  obtain ⟨_, r3, hselect, h⟩ := bind_ok_iff.mp h
  obtain rfl := writeAll_ok_iff.mp hselect
  obtain ⟨_, r4, hauth, h⟩ := bind_ok_iff.mp h
  obtain ⟨credentials, hcred, credIn, credOut⟩ := authenticate_ok_iff.mp hauth
  obtain ⟨target, rfl, requestIn, requestOut⟩ := answerRequest_ok_iff.mp h
  obtain ⟨greeting, hgreeting, greetingIn⟩ := greeting_of_reads auth hdr methods _ r1 r2 hdrSize
    (Decidable.not_not.mp version) hdrIn methodsSize (Decidable.not_not.mp offered) methodsIn
  refine ⟨target, _, ⟨greeting, credentials, hgreeting, hcred, rfl⟩, ?_, ?_, rfl, target.host_named⟩
  · dsimp only at greetingIn credIn
    rw [greetingIn, credIn, requestIn]
    simp
  · dsimp only at credOut
    rw [requestOut, credOut, methodsOut, hdrOut, replies]
    simp

/-- On every stream of the grammar the target is returned. -/
theorem run_of_handshake (auth : Option SocksAuthConfig) (input out bs : Bytes) (target : Target)
    (port : UInt16) (after : Duplex) (handshake : Handshake auth target port bs)
    (hin : input = bs ++ after.input) (hout : after.output = out ++ replies auth) :
    (handleSocks5Handshake auth).run ⟨input, out⟩ = (.ok (.connect target.host port), after) := by
  obtain ⟨greeting, credentials, greets, hcred, rfl⟩ := handshake
  have hauth : (authenticate auth).run
      ⟨credentials ++ (connectRequest target port ++ after.input), out ++ [0x05, selectedMethod auth]⟩ =
      (.ok (), ⟨connectRequest target port ++ after.input,
        out ++ [0x05, selectedMethod auth] ++ (if auth.isSome then [0x01, 0x00] else [])⟩) :=
    authenticate_ok_iff.mpr ⟨credentials, hcred, rfl, rfl⟩
  rw [hin, List.append_assoc, List.append_assoc, handshake_behind_greeting auth greeting _ out greets,
    behindGreeting, bind_of_ok hauth]
  refine answerRequest_ok_iff.mpr ⟨target, rfl, rfl, ?_⟩
  rw [hout, replies]
  simp

/-- The handshake returns a target exactly on the streams of the grammar, and
then uses up the handshake alone and tells the client that it is accepted. -/
theorem handshake_accepts_iff (auth : Option SocksAuthConfig) (input out : Bytes) (host : String)
    (port : UInt16) (after : Duplex) :
    (handleSocks5Handshake auth).run ⟨input, out⟩ = (.ok (.connect host port), after) ↔
      ∃ target bs, Handshake auth target port bs ∧ input = bs ++ after.input ∧
        after.output = out ++ replies auth ∧ host = target.host ∧ target.NamedBy host := by
  constructor
  · exact handshake_of_run auth input out host port after
  · intro h
    obtain ⟨target, bs, handshake, hin, hout, rfl, -⟩ := h
    exact run_of_handshake auth input out bs target port after handshake hin hout

end TgWsProxy.Guarantees.SocksHandshake
