import TgWsProxy.Guarantees.PlainTcp
import TgWsProxy.Guarantees.SocksHandshake

/-!
# Telegram's IPv4 addresses in IPv6 form

A connect request can name an IPv4 address in four octets or as the IPv6 address that it is
mapped to. The first form is recognised as Telegram's and the session waits for an init packet.
The second is printed as `::ffff:` and a dotted quad and parses as IPv6, where the ranges hold no
mapped address: whatever the address, it is passed through as plain TCP (`mapped_passed_through`).
-/

set_option autoImplicit false

namespace TgWsProxy.Guarantees.MappedAddresses
open Library Library.Io Source.Std Source.Socks Source.Telegram Source.Ws Source.Routing
open SocksHandshake PlainTcp

def InTelegramRanges (a : Ipv4Addr) : Prop :=
  ∃ row ∈ tgIpv4Ranges, ipToU32 row.1 ≤ a.toU32 ∧ a.toU32 ≤ ipToU32 row.2

/-- The octets of `::ffff:a`. -/
def mappedOctets (a : Ipv4Addr) : Bytes := List.replicate 10 0 ++ [0xFF, 0xFF] ++ a.octets

def ipv4Form (a : Ipv4Addr) : Target := .ipv4 a.octets rfl

def mappedForm (a : Ipv4Addr) : Target := .ipv6 (mappedOctets a) rfl

variable (aes : Aes256)

/-- The session to a host is passed through, with all that the client sends. -/
def PassedThrough (host : String) : Prop :=
  ∀ port client timely cache table now connect,
    routeClient aes ⟨host, port, client⟩ timely cache table now connect = .tcp host port [] client

/-- A request for the target yields a text that counts as Telegram's, and whose sessions are
never passed through. -/
def Recognised (target : Target) : Prop :=
  ∀ rest out, ∃ host,
    (readTargetAddress target.atyp).run ⟨target.body ++ rest, out⟩ = (.ok host, ⟨rest, out⟩) ∧
    isTelegramIp host = true ∧
    ∀ port client timely cache table now connect,
      routeClient aes ⟨host, port, client⟩ timely cache table now connect ≠ .tcp host port [] client

/-! ## The texts -/

theorem readTargetAddress_target (target : Target) (rest out : Bytes) :
    (readTargetAddress target.atyp).run ⟨target.body ++ rest, out⟩ =
      (.ok target.host, ⟨rest, out⟩) :=
  readTargetAddress_ok_iff.mpr ⟨target, rfl, rfl, rfl, rfl⟩

theorem toIpv4Mapped_mappedOctets (a : Ipv4Addr) :
    (Ipv6Addr.ofOctets (mappedOctets a)).toIpv4Mapped = some a := by
  rw [Ipv6Addr.toIpv4Mapped, Ipv6Addr.octets_ofOctets _ rfl]
  rfl

theorem mappedForm_host (a : Ipv4Addr) : (mappedForm a).host = "::ffff:" ++ a.toString := by
  show (Ipv6Addr.ofOctets (mappedOctets a)).toString = _
  rw [Ipv6Addr.toString, Ipv6Addr.format, toIpv4Mapped_mappedOctets, String.ofList_append,
    String.ofList_toList]
  rfl

/-! ## How they are classified -/

theorem isTelegramIp_ipv4 (a : Ipv4Addr) : isTelegramIp a.toString = true ↔ InTelegramRanges a := by
  unfold isTelegramIp InTelegramRanges
  rw [IpAddr.fromStr_ipv4]
  simp only [List.any_eq_true, Bool.and_eq_true, decide_eq_true_eq]

/-- Ten leading zeros keep a mapped address far below the ranges of IPv6. -/
theorem mapped_toU128_lt (a : Ipv4Addr) : (Ipv6Addr.ofOctets (mappedOctets a)).toU128 < 2 ^ 48 := by
  have ha := a.a.toNat_lt
  have hb := a.b.toNat_lt
  have hc := a.c.toNat_lt
  have hd := a.d.toNat_lt
  rw [Ipv6Addr.toU128, Ipv6Addr.octets_ofOctets _ rfl]
  simp [mappedOctets, Ipv4Addr.octets, ofBE, List.replicate]
  omega

theorem ipv6_ranges_high : ∀ row ∈ tgIpv6Ranges, 2 ^ 48 ≤ ipv6ToU128 row.1 := by
  decide +kernel

theorem isTelegramIp_mapped (a : Ipv4Addr) : isTelegramIp (mappedForm a).host = false := by
  have hlow := mapped_toU128_lt a
  show isTelegramIp (Ipv6Addr.ofOctets (mappedOctets a)).toString = false
  unfold isTelegramIp
  rw [IpAddr.fromStr_ipv6]
  simp only [List.any_eq_false, Bool.and_eq_true, decide_eq_true_eq]
  intro row hrow hboth
  have hhigh := ipv6_ranges_high row hrow
  omega

/-! ## How they are routed -/

theorem passedThrough_iff (host : String) : PassedThrough aes host ↔ isTelegramIp host = false := by
  constructor
  · intro hpassed
    have htcp := hpassed 0 [] true .empty .empty 0 fun _ => none
    rw [routeClient_eq_tcp_iff] at htcp
    obtain ⟨-, -, ⟨helsewhere, -, -⟩ | ⟨hunknown, -, -⟩⟩ := htcp
    · exact helsewhere
    · exact absurd hunknown.full (by simp)
  · intro helsewhere port client timely cache table now connect
    rw [routeClient_eq_tcp_iff]
    exact ⟨rfl, rfl, .inl ⟨helsewhere, rfl, rfl⟩⟩

/-- A request is recognised exactly if its host text counts as Telegram's. -/
theorem recognised_iff (target : Target) : Recognised aes target ↔ isTelegramIp target.host = true := by
  constructor
  · intro recognised
    obtain ⟨host, hread, htelegram, -⟩ := recognised [] []
    rw [readTargetAddress_target] at hread
    obtain rfl := Except.ok.inj (Prod.mk.inj hread).1
    exact htelegram
  · intro htelegram rest out
    refine ⟨target.host, readTargetAddress_target target rest out, htelegram, ?_⟩
    intro port client timely cache table now connect htcp
    rw [routeClient_eq_tcp_iff] at htcp
    obtain ⟨-, -, ⟨helsewhere, -, -⟩ | ⟨hunknown, hprelude, -⟩⟩ := htcp
    · exact Bool.eq_false_iff.mp helsewhere htelegram
    · -- an unknown address goes out behind its own init packet
      have hfull := hunknown.full
      rw [eq_comm, List.take_eq_nil_iff] at hprelude
      rcases hprelude with hzero | hnil
      · cases hzero
      · dsimp only at hfull hnil
        rw [hnil] at hfull
        cases hfull

/-- Of the two forms of a Telegram address the first is recognised, and the second, printed in
dotted form, is passed through as plain TCP. -/
theorem mapped_passed_through (a : Ipv4Addr) (telegram : InTelegramRanges a) :
    ¬ (Recognised aes (ipv4Form a) ∧ Recognised aes (mappedForm a)) ∧
      Recognised aes (ipv4Form a) ∧
      ∀ rest out, ∃ host, host = "::ffff:" ++ a.toString ∧
        (readTargetAddress 0x04).run ⟨mappedOctets a ++ rest, out⟩ = (.ok host, ⟨rest, out⟩) ∧
        isTelegramIp host = false ∧ PassedThrough aes host := by
  have hmapped := isTelegramIp_mapped a
  refine ⟨?_, (recognised_iff aes (ipv4Form a)).mpr ((isTelegramIp_ipv4 a).mpr telegram), ?_⟩
  · intro ⟨_, recognised⟩
    exact Bool.eq_false_iff.mp hmapped ((recognised_iff aes (mappedForm a)).mp recognised)
  · intro rest out
    exact ⟨_, mappedForm_host a, readTargetAddress_target (mappedForm a) rest out, hmapped,
      (passedThrough_iff aes _).mpr hmapped⟩

/-- An address of data centre 2. -/
def sampleAddr : Ipv4Addr := ⟨149, 154, 167, 51⟩

theorem mapped_passed_through_sample : ¬ Recognised sampleAes (mappedForm sampleAddr) := by
  obtain ⟨hboth, hipv4, -⟩ := mapped_passed_through sampleAes sampleAddr
    ⟨("149.154.160.0", "149.154.175.255"), by decide, by decide +kernel⟩
  exact fun hmapped => hboth ⟨hipv4, hmapped⟩

/-- The same address in both forms: the first waits for an init packet, the second goes out. -/
theorem mapped_address_bypasses :
    (readTargetAddress 0x01).run ⟨[149, 154, 167, 51], []⟩ = (.ok "149.154.167.51", ⟨[], []⟩) ∧
      (readTargetAddress 0x04).run ⟨[0, 0, 0, 0, 0, 0, 0, 0, 0, 0, 255, 255, 149, 154, 167, 51], []⟩ =
        (.ok "::ffff:149.154.167.51", ⟨[], []⟩) ∧
      isTelegramIp "149.154.167.51" = true ∧ isTelegramIp "::ffff:149.154.167.51" = false ∧
      routeClient sampleAes ⟨"::ffff:149.154.167.51", 443, sampleInit [0xEF, 0xEF, 0xEF, 0xEF]⟩ true
          .empty .empty 0 (fun _ => none) =
        .tcp "::ffff:149.154.167.51" 443 [] (sampleInit [0xEF, 0xEF, 0xEF, 0xEF]) := by
  refine ⟨?_, ?_, ?_, ?_, ?_⟩ <;> decide +kernel

end TgWsProxy.Guarantees.MappedAddresses
