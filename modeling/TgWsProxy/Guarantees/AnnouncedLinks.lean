import TgWsProxy.Source.Config.Links
import TgWsProxy.Source.Std.IpAddrText

/-!
# What is announced is listened on

With an unspecified host the links name addresses of the interfaces: each once, all but the
unspecified and the link-local ones, the public ones first. Each can be read back from its
link, and the server has bound the wildcard address of its family on the link's port. Where
the interfaces cannot be listed the one link names the unspecified host itself.
-/

set_option autoImplicit false

namespace TgWsProxy.Guarantees.AnnouncedLinks
open Library Library.Numerals Source.Std Source.Config Source.Runtime

/-! ## Texts of addresses -/

theorem fromStr_toString (ip : IpAddr) : IpAddr.fromStr ip.toString = some ip := by
  cases ip with
  | v4 ip => exact IpAddr.fromStr_ipv4 ip
  | v6 ip => exact IpAddr.fromStr_ipv6 ip

theorem toString_injective : Function.Injective IpAddr.toString := by
  intro ip other h
  have hread := fromStr_toString ip
  rw [h, fromStr_toString other] at hread
  exact (Option.some.inj hread).symm

/-- The characters of an address. -/
def IsAddressChar (c : Char) : Prop := isDigit 16 c = true ∨ c = '.' ∨ c = ':'

theorem decimal_chars (n : UInt8) (c : Char) (hc : c ∈ decimal n) : IsAddressChar c := by
  have hdigit := isDigit_of_mem_toDigits 10 n.toNat (by decide) (by decide) c hc
  unfold isDigit toDigit at hdigit
  unfold IsAddressChar isDigit toDigit
  grind

theorem hexadecimal_chars (n : UInt16) (c : Char) (hc : c ∈ hexadecimal n) : IsAddressChar c :=
  .inl (isDigit_of_mem_toDigits 16 n.toNat (by decide) (by decide) c hc)

theorem format_ipv4_chars (ip : Ipv4Addr) : ∀ c ∈ ip.format, IsAddressChar c := by
  intro c hc
  unfold Ipv4Addr.format at hc
  simp only [List.mem_append, List.mem_cons] at hc
  rcases hc with ha | rfl | hb | rfl | hcd | rfl | hd
  · exact decimal_chars _ c ha
  · exact .inr (.inl rfl)
  · exact decimal_chars _ c hb
  · exact .inr (.inl rfl)
  · exact decimal_chars _ c hcd
  · exact .inr (.inl rfl)
  · exact decimal_chars _ c hd

theorem fmtSubslice_chars (segs : List UInt16) : ∀ c ∈ fmtSubslice segs, IsAddressChar c := by
  intro c hc
  cases segs with
  | nil => cases hc
  | cons first tail =>
    simp only [fmtSubslice, List.mem_append, List.mem_flatMap, List.mem_cons] at hc
    rcases hc with hfirst | ⟨seg, hseg, rfl | hc⟩
    · exact hexadecimal_chars _ c hfirst
    · exact .inr (.inr rfl)
    · exact hexadecimal_chars _ c hc

theorem format_ipv6_chars (ip : Ipv6Addr) : ∀ c ∈ ip.format, IsAddressChar c := by
  intro c hc
  unfold Ipv6Addr.format at hc
  cases hmapped : ip.toIpv4Mapped with
  | some ipv4 =>
    simp only [hmapped, List.mem_append] at hc
    rcases hc with hprefix | hipv4
    · have hchars : "::ffff:".toList.all (fun c => isDigit 16 c || c == ':') = true := by decide
      have hc := List.all_eq_true.mp hchars c hprefix
      rw [Bool.or_eq_true, beq_iff_eq] at hc
      exact hc.imp_right .inr
    · exact format_ipv4_chars ipv4 c hipv4
  | none =>
    simp only [hmapped] at hc
    split at hc
    · simp only [List.mem_append] at hc
      rcases hc with (hbefore | hcolons) | hafter
      · exact fmtSubslice_chars _ c hbefore
      · have hchars : "::".toList.all (fun c => c == ':') = true := by decide
        exact .inr (.inr (beq_iff_eq.mp (List.all_eq_true.mp hchars c hcolons)))
      · exact fmtSubslice_chars _ c hafter
    · exact fmtSubslice_chars _ c hc

theorem toString_chars (ip : IpAddr) : ∀ c ∈ ip.toString.toList, IsAddressChar c := by
  cases ip with
  | v4 ip =>
    show ∀ c ∈ (String.ofList ip.format).toList, _
    rw [String.toList_ofList]
    exact format_ipv4_chars ip
  | v6 ip =>
    show ∀ c ∈ (String.ofList ip.format).toList, _
    rw [String.toList_ofList]
    exact format_ipv6_chars ip

theorem not_bracket (ip : IpAddr) : '[' ∉ ip.toString.toList ∧ ']' ∉ ip.toString.toList := by
  have hopen : ¬ IsAddressChar '[' := by unfold IsAddressChar; decide
  have hclose : ¬ IsAddressChar ']' := by unfold IsAddressChar; decide
  exact ⟨fun h => hopen (toString_chars ip _ h), fun h => hclose (toString_chars ip _ h)⟩

theorem normalizeHost_toString (ip : IpAddr) : normalizeHost ip.toString = ip.toString := by
  unfold normalizeHost
  split
  · rename_i rest htext
    have hopen : '[' ∈ ip.toString.toList := htext ▸ List.mem_cons_self
    exact absurd hopen (not_bracket ip).1
  · rfl

theorem normalizeHost_bracketed (text : String) : normalizeHost ("[" ++ text ++ "]") = text := by
  have htext : ("[" ++ text ++ "]").toList = '[' :: (text.toList ++ [']']) := by
    simp [String.toList_append]
  unfold normalizeHost
  rw [htext]
  simp

theorem colon_iff (ip : IpAddr) : ':' ∈ ip.toString.toList ↔ ∃ v6, ip = .v6 v6 :=
  IpAddr.colon_iff ip.toString ip (fromStr_toString ip)

/-! ## Links -/

/-- The `server` of a link: brackets stand around an address of the sixth version. -/
def serverText (ip : IpAddr) : String :=
  match ip with
  | .v4 ip => ip.toString
  | .v6 ip => "[" ++ ip.toString ++ "]"

def linkTo (port : UInt16) (ip : IpAddr) : String :=
  "tg://socks?server=" ++ serverText ip ++ "&port=" ++ toString port.toNat

theorem link_toString (ip : IpAddr) (port : UInt16) :
    telegramSocksProxyLink ip.toString port = linkTo port ip := by
  have hfirst : ip.toString.toList.head? ≠ some '[' :=
    fun h => (not_bracket ip).1 (List.mem_of_head? h)
  have hlast : ip.toString.toList.getLast? ≠ some ']' :=
    fun h => (not_bracket ip).2 (List.mem_of_getLast? h)
  unfold telegramSocksProxyLink linkTo
  simp only [normalizeHost_toString]
  cases ip with
  | v4 ip =>
    have hcolon : ¬ ':' ∈ (IpAddr.v4 ip).toString.toList := by
      rw [colon_iff]
      rintro ⟨v6, h⟩
      cases h
    rw [if_neg fun h => hcolon h.1]
    rfl
  | v6 ip =>
    rw [if_pos ⟨(colon_iff _).mpr ⟨ip, rfl⟩, hfirst, hlast⟩]
    rfl

theorem fromStr_serverText (ip : IpAddr) :
    IpAddr.fromStr (normalizeHost (serverText ip)) = some ip := by
  cases ip with
  | v4 ip =>
    show IpAddr.fromStr (normalizeHost (IpAddr.v4 ip).toString) = _
    rw [normalizeHost_toString, fromStr_toString]
  | v6 ip =>
    show IpAddr.fromStr (normalizeHost ("[" ++ (IpAddr.v6 ip).toString ++ "]")) = _
    rw [normalizeHost_bracketed, fromStr_toString]

theorem fromStr_bracket (rest : List Char) : readIpAddr ('[' :: rest) = none := rfl

/-- A host that is an address is still the server of its link, brackets aside. -/
theorem link_server (host : String) (port : UInt16) (ip : IpAddr)
    (h : IpAddr.fromStr (normalizeHost host) = some ip) :
    ∃ server, telegramSocksProxyLink host port =
        "tg://socks?server=" ++ server ++ "&port=" ++ toString port.toNat ∧
      normalizeHost server = normalizeHost host := by
  unfold telegramSocksProxyLink
  dsimp only
  split
  · exact ⟨_, rfl, normalizeHost_bracketed _⟩
  · refine ⟨_, rfl, ?_⟩
    generalize normalizeHost host = text at h
    have hread := parseWith_eq_some readIpAddr text.toList ip h
    unfold normalizeHost
    split
    · rename_i rest htext
      rw [htext, fromStr_bracket] at hread
      cases hread
    · rfl

/-! ## The addresses that are announced -/

/-- The addresses that are never announced. -/
def hidden (ip : IpAddr) : Bool :=
  match ip with
  | .v4 _ => false
  | .v6 ip => ip.isUnspecified || ip.isUnicastLinkLocal

theorem announcePriority_lt_iff (ip : IpAddr) : announcePriority ip < 255 ↔ hidden ip = false := by
  cases ip with
  | v4 ip =>
    unfold announcePriority hidden
    dsimp only
    generalize ip.isLoopback = loopback
    revert loopback
    decide
  | v6 ip =>
    -- the arms overlap, but no loopback address is unspecified or link-local
    have hloopback : ip.isLoopback = true →
        ip.isUnspecified = false ∧ ip.isUnicastLinkLocal = false := by
      intro h
      have hsegments : ip.segments = [0, 0, 0, 0, 0, 0, 0, 1] := beq_iff_eq.mp h
      unfold Ipv6Addr.isUnspecified Ipv6Addr.isUnicastLinkLocal
      rw [hsegments]
      decide
    unfold announcePriority hidden isPublicIpv6
    dsimp only
    revert hloopback
    generalize ip.isLoopback = loopback, ip.isUnspecified = unspecified, ip.isMulticast = multicast,
      ip.isUniqueLocal = uniqueLocal, ip.isUnicastLinkLocal = linkLocal
    revert loopback unspecified multicast uniqueLocal linkLocal
    decide

def entry (ip : IpAddr) : UInt8 × String := (announcePriority ip, ip.toString)

/-- By priority, and by text where that is the same. -/
def precedes (ip other : IpAddr) : Bool := ranksBefore (entry ip) (entry other)

theorem ranksBefore_iff (x y : UInt8 × String) :
    ranksBefore x y = true ↔
      x.1.toNat < y.1.toNat ∨ x.1.toNat = y.1.toNat ∧ x.2.toList ≤ y.2.toList := by
  unfold ranksBefore
  simp [UInt8.toNat_inj]

theorem ranksBefore_trans (x y z : UInt8 × String) (hxy : ranksBefore x y = true)
    (hyz : ranksBefore y z = true) : ranksBefore x z = true := by
  rw [ranksBefore_iff] at hxy hyz ⊢
  rcases hxy with hxy | ⟨hxy, htext⟩
  · exact .inl (by omega)
  · rcases hyz with hyz | ⟨hyz, hother⟩
    · exact .inl (by omega)
    · exact .inr ⟨hxy.trans hyz, le_trans htext hother⟩

theorem ranksBefore_total (x y : UInt8 × String) : (ranksBefore x y || ranksBefore y x) = true := by
  rw [Bool.or_eq_true, ranksBefore_iff, ranksBefore_iff]
  rcases Nat.lt_trichotomy x.1.toNat y.1.toNat with hlt | heq | hgt
  · exact .inl (.inl hlt)
  · exact (le_total x.2.toList y.2.toList).imp (fun h => .inr ⟨heq, h⟩) fun h => .inr ⟨heq.symm, h⟩
  · exact .inr (.inl hgt)

/-- The loop over the interfaces keeps each address that is not hidden once. -/
theorem rankAddrs_spec (ips seen : List IpAddr) :
    ∃ chosen : List IpAddr, rankAddrs ips (seen.map IpAddr.toString) = chosen.map entry ∧ chosen.Nodup ∧
      ∀ ip, ip ∈ chosen ↔ ip ∈ ips ∧ ip ∉ seen ∧ hidden ip = false := by
  induction ips generalizing seen with
  | nil => exact ⟨[], rfl, List.nodup_nil, by simp⟩
  | cons first ips ih =>
    -- a text that was seen is the text of no other address
    have hmem : first.toString ∈ seen.map IpAddr.toString ↔ first ∈ seen :=
      List.mem_map_of_injective toString_injective
    simp only [rankAddrs, hmem, announcePriority_lt_iff]
    by_cases hseen : first ∈ seen
    · rw [if_pos hseen]
      rcases ih seen with ⟨chosen, hranked, hnodup, hchosen⟩
      refine ⟨chosen, hranked, hnodup, fun ip => ?_⟩
      rw [hchosen, List.mem_cons]
      grind
    · rw [if_neg hseen]
      rcases ih (first :: seen) with ⟨chosen, hranked, hnodup, hchosen⟩
      rw [List.map_cons] at hranked
      cases hhidden : hidden first with
      | false =>
        rw [if_pos rfl, hranked]
        have hfresh : first ∉ chosen := fun h => ((hchosen first).mp h).2.1 List.mem_cons_self
        refine ⟨first :: chosen, rfl, List.nodup_cons.mpr ⟨hfresh, hnodup⟩, fun ip => ?_⟩
        rw [List.mem_cons, List.mem_cons, hchosen, List.mem_cons]
        grind
      | true =>
        rw [if_neg (by decide), hranked]
        refine ⟨chosen, rfl, hnodup, fun ip => ?_⟩
        rw [hchosen, List.mem_cons, List.mem_cons]
        grind

theorem unseen_of_nodup (addrs seen : List String) (once : addrs.Nodup)
    (fresh : ∀ addr ∈ addrs, addr ∉ seen) : unseen addrs seen = addrs := by
  induction addrs generalizing seen with
  | nil => rfl
  | cons addr addrs ih =>
    rw [List.nodup_cons] at once
    rw [unseen, if_neg (fresh addr List.mem_cons_self), ih (addr :: seen) once.2]
    intro other hother
    rw [List.mem_cons, not_or]
    exact ⟨fun h => once.1 (h ▸ hother), fresh other (List.mem_cons_of_mem addr hother)⟩

def loopbacks : List IpAddr := [.v4 ⟨127, 0, 0, 1⟩, .v6 ⟨[0, 0, 0, 0, 0, 0, 0, 1], rfl⟩]

/-- What is announced where the interfaces have these addresses. -/
structure Announces (ips chosen : List IpAddr) : Prop where
  nonempty : chosen ≠ []
  once : chosen.Nodup
  ordered : chosen.Pairwise fun ip other => precedes ip other = true
  complete : ∀ ip ∈ ips, hidden ip = false → ip ∈ chosen
  genuine : (∀ ip ∈ chosen, ip ∈ ips ∧ hidden ip = false) ∨
    (∀ ip ∈ ips, hidden ip = true) ∧ chosen = loopbacks

theorem discoverLinkAddrs_spec (ips : List IpAddr) :
    ∃ chosen, discoverLinkAddrs (some ips) = chosen.map IpAddr.toString ∧ Announces ips chosen := by
  rcases rankAddrs_spec ips [] with ⟨chosen, hranked, hnodup, hchosen⟩
  have hsorted : (rankAddrs ips []).mergeSort ranksBefore = (chosen.mergeSort precedes).map entry := by
    rw [show rankAddrs ips [] = chosen.map entry from hranked]
    exact (@List.map_mergeSort _ _ precedes ranksBefore entry chosen fun _ _ _ _ => rfl).symm
  have hordered : (chosen.mergeSort precedes).Pairwise fun ip other => precedes ip other = true :=
    List.pairwise_mergeSort (fun x y z => ranksBefore_trans (entry x) (entry y) (entry z))
      (fun x y => ranksBefore_total (entry x) (entry y)) chosen
  have hperm := List.mergeSort_perm chosen precedes
  simp only [discoverLinkAddrs, hsorted, List.map_map]
  generalize chosen.mergeSort precedes = sorted at *
  have hmem : ∀ ip, ip ∈ sorted ↔ ip ∈ ips ∧ hidden ip = false := by
    intro ip
    rw [hperm.mem_iff, hchosen]
    simp
  by_cases hempty : sorted = []
  · rw [if_pos (by rw [hempty]; rfl)]
    have hall : ∀ ip ∈ ips, hidden ip = true := by
      intro ip hip
      by_contra hshown
      have hkept := (hmem ip).mpr ⟨hip, Bool.eq_false_iff.mpr hshown⟩
      rw [hempty] at hkept
      cases hkept
    refine ⟨loopbacks, by decide +kernel, by decide, by decide, by decide +kernel, ?_,
      .inr ⟨hall, rfl⟩⟩
    intro ip hip hshown
    rw [hall ip hip] at hshown
    cases hshown
  · rw [if_neg (by simpa using hempty)]
    exact ⟨sorted, rfl, hempty, hperm.nodup_iff.mpr hnodup, hordered,
      fun ip hip hshown => (hmem ip).mpr ⟨hip, hshown⟩, .inl fun ip hip => (hmem ip).mp hip⟩

/-! ## The listeners -/

variable {Err : Type} (net : Net Err)

theorem bindSpecs_mem (specs : List (SocketAddr × Bool)) (seen listeners : List SocketAddr)
    (h : bindSpecs net specs seen = .ok listeners) :
    ∀ spec ∈ specs, spec.1 ∈ seen ∨ spec.1 ∈ listeners := by
  induction specs generalizing seen listeners with
  | nil =>
    intro spec hspec
    cases hspec
  | cons first specs ih =>
    rw [bindSpecs] at h
    by_cases hseen : first.1 ∈ seen
    · rw [if_pos hseen] at h
      intro spec hspec
      rcases List.mem_cons.mp hspec with rfl | hspec
      · exact .inl hseen
      · exact ih seen listeners h spec hspec
    · rw [if_neg hseen] at h
      cases hbind : net.bindSocket first.1 first.2 with
      | error err =>
        rw [hbind] at h
        cases h
      | ok bound =>
        rw [hbind] at h
        cases hrest : bindSpecs net specs (first.1 :: seen) with
        | error err =>
          rw [hrest] at h
          cases h
        | ok rest =>
          rw [hrest] at h
          have hlisteners : first.1 :: rest = listeners := Except.ok.inj h
          subst hlisteners
          intro spec hspec
          rcases List.mem_cons.mp hspec with rfl | hspec
          · exact .inr List.mem_cons_self
          · rcases ih (first.1 :: seen) rest hrest spec hspec with hmem | hmem
            · rcases List.mem_cons.mp hmem with heq | hmem
              · exact .inr (heq ▸ List.mem_cons_self)
              · exact .inl hmem
            · exact .inr (List.mem_cons_of_mem _ hmem)

/-- The wildcard address of the same family. -/
def wildcardOf (port : UInt16) (ip : IpAddr) : SocketAddr :=
  match ip with
  | .v4 _ => .v4 ⟨0, 0, 0, 0⟩ port
  | .v6 _ => .v6 unspecifiedIpv6 port 0 0

theorem bindHost_wildcards (host : String) (port : UInt16)
    (wildcard : hostIsUnspecified (normalizeHost host) = true) (listeners : List SocketAddr)
    (h : bindHost net host port = .ok listeners) (ip : IpAddr) : wildcardOf port ip ∈ listeners := by
  unfold bindHost hostSpecs at h
  simp only [wildcard, if_true] at h
  have hmem := bindSpecs_mem net _ [] listeners h
  cases ip with
  | v4 ip => exact (hmem _ List.mem_cons_self).resolve_left List.not_mem_nil
  | v6 ip => exact (hmem _ (List.mem_cons_of_mem _ List.mem_cons_self)).resolve_left List.not_mem_nil

/-- Where the interfaces are listed the links name the addresses that `Announces` says. -/
theorem links_of_interfaces (ips : List IpAddr) (host : String) (port : UInt16)
    (wildcard : hostIsUnspecified (normalizeHost host) = true) :
    ∃ chosen, telegramSocksProxyLinks (some ips) host port = chosen.map (linkTo port) ∧
      Announces ips chosen := by
  rcases discoverLinkAddrs_spec ips with ⟨chosen, hdiscovered, announces⟩
  have honce := announces.once.map toString_injective
  have hunseen := unseen_of_nodup (chosen.map IpAddr.toString) [] honce fun _ _ => List.not_mem_nil
  have haddrs : linkAddrs (some ips) host = chosen.map IpAddr.toString := by
    unfold linkAddrs
    simp only [wildcard, if_true, hdiscovered, hunseen]
    rw [if_neg (by simpa using announces.nonempty)]
  refine ⟨chosen, ?_, announces⟩
  unfold telegramSocksProxyLinks
  rw [haddrs, List.map_map]
  exact List.map_congr_left fun ip _ => link_toString ip port

theorem hostIsUnspecified_congr (host other : String) (h : normalizeHost host = normalizeHost other) :
    hostIsUnspecified host = hostIsUnspecified other := by
  unfold hostIsUnspecified
  rw [h]

theorem parses_of_unspecified (host : String) (wildcard : hostIsUnspecified host = true) :
    ∃ ip, IpAddr.fromStr (normalizeHost host) = some ip := by
  unfold hostIsUnspecified at wildcard
  split at wildcard
  · rename_i ip hparse
    exact ⟨_, hparse⟩
  · rename_i ip hparse
    exact ⟨_, hparse⟩
  · cases wildcard

/-- Where they are not, the link names the host. -/
theorem link_of_failure (host : String) (port : UInt16)
    (wildcard : hostIsUnspecified (normalizeHost host) = true) :
    ∃ server, telegramSocksProxyLinks none host port =
        ["tg://socks?server=" ++ server ++ "&port=" ++ toString port.toNat] ∧
      hostIsUnspecified server = true := by
  have haddrs : linkAddrs none host = [normalizeHost host] := by
    unfold linkAddrs
    simp only [wildcard, if_true]
    rfl
  rcases parses_of_unspecified (normalizeHost host) wildcard with ⟨ip, hparse⟩
  rcases link_server (normalizeHost host) port ip hparse with ⟨server, hlink, hserver⟩
  have honly : telegramSocksProxyLinks none host port =
      [telegramSocksProxyLink (normalizeHost host) port] :=
    congrArg (List.map (telegramSocksProxyLink · port)) haddrs
  exact ⟨server, honly.trans (congrArg (fun link => [link]) hlink),
    (hostIsUnspecified_congr server (normalizeHost host) hserver).trans wildcard⟩

/-- On an unspecified host the links name the addresses that `Announces` says, each of which
is read back from its link; where the server has started it listens for every one of them.
If the interfaces cannot be listed the one link names an unspecified address. -/
theorem announced_links (ips : List IpAddr) (host : String) (port : UInt16)
    (wildcard : hostIsUnspecified (normalizeHost host) = true) :
    (∃ chosen, telegramSocksProxyLinks (some ips) host port = chosen.map (linkTo port) ∧
      Announces ips chosen ∧
      (∀ ip ∈ chosen, IpAddr.fromStr (normalizeHost (serverText ip)) = some ip) ∧
      ∀ listeners, bindHost net host port = .ok listeners →
        ∀ ip ∈ chosen, wildcardOf port ip ∈ listeners) ∧
    ∃ server, telegramSocksProxyLinks none host port =
        ["tg://socks?server=" ++ server ++ "&port=" ++ toString port.toNat] ∧
      hostIsUnspecified server = true := by
  rcases links_of_interfaces ips host port wildcard with ⟨chosen, hlinks, announces⟩
  refine ⟨⟨chosen, hlinks, announces, fun ip _ => fromStr_serverText ip, ?_⟩,
    link_of_failure host port wildcard⟩
  intro listeners hbound ip _
  exact bindHost_wildcards net host port wildcard listeners hbound ip

def sampleNet : Net Unit := ⟨fun _ _ => .error (), fun _ _ => .ok ()⟩

def sampleAddrs : List IpAddr :=
  [.v6 ⟨[0xfe80, 0, 0, 0, 0, 0, 0, 1], rfl⟩, .v4 ⟨192, 168, 0, 2⟩]

/-- The default host, on a machine with a link-local address and a private one. -/
theorem announced_links_default :
    (∃ chosen, telegramSocksProxyLinks (some sampleAddrs) CliConfig.default.host 1080 =
        chosen.map (linkTo 1080) ∧
      Announces sampleAddrs chosen ∧
      (∀ ip ∈ chosen, IpAddr.fromStr (normalizeHost (serverText ip)) = some ip) ∧
      ∀ ip ∈ chosen, wildcardOf 1080 ip ∈ [.v4 ⟨0, 0, 0, 0⟩ 1080, .v6 unspecifiedIpv6 1080 0 0]) ∧
    ∃ server, telegramSocksProxyLinks none CliConfig.default.host 1080 =
        ["tg://socks?server=" ++ server ++ "&port=" ++ toString (1080 : UInt16).toNat] ∧
      hostIsUnspecified server = true := by
  rcases announced_links sampleNet sampleAddrs CliConfig.default.host 1080 (by decide +kernel) with
    ⟨⟨chosen, links, announces, read, listened⟩, failed⟩
  exact ⟨⟨chosen, links, announces, read, listened _ (by decide +kernel)⟩, failed⟩

end TgWsProxy.Guarantees.AnnouncedLinks
