import Mathlib.Data.String.Basic
import TgWsProxy.Source.Runtime

/-!
# Announced links

The links of `config.rs` that `main` writes to the log when the process starts. What
`get_if_addrs` answers is given: the addresses of the interfaces, or nothing if it fails.
`normalize_host` and `is_unspecified_host` are the functions of `runtime/listen.rs`, word
for word.
-/

set_option autoImplicit false

namespace TgWsProxy.Source.Std

def Ipv4Addr.isLoopback (ip : Ipv4Addr) : Bool := ip.a == 127

def Ipv6Addr.isLoopback (ip : Ipv6Addr) : Bool := ip.segments == [0, 0, 0, 0, 0, 0, 0, 1]

def Ipv6Addr.isUnspecified (ip : Ipv6Addr) : Bool := ip.segments.all (· == 0)

def Ipv6Addr.isMulticast (ip : Ipv6Addr) : Bool := ip.segments.headD 0 &&& 0xff00 == 0xff00

def Ipv6Addr.isUniqueLocal (ip : Ipv6Addr) : Bool := ip.segments.headD 0 &&& 0xfe00 == 0xfc00

def Ipv6Addr.isUnicastLinkLocal (ip : Ipv6Addr) : Bool := ip.segments.headD 0 &&& 0xffc0 == 0xfe80

def IpAddr.toString (ip : IpAddr) : String :=
  match ip with
  | .v4 ip => ip.toString
  | .v6 ip => ip.toString

end TgWsProxy.Source.Std

namespace TgWsProxy.Source.Config
open Source.Std Source.Runtime

def isPublicIpv6 (ip : Ipv6Addr) : Bool :=
  !ip.isLoopback && !ip.isUnspecified && !ip.isMulticast && !ip.isUniqueLocal &&
    !ip.isUnicastLinkLocal

def announcePriority (ip : IpAddr) : UInt8 :=
  match ip with
  | .v6 ip =>
    if isPublicIpv6 ip then 0
    else if !ip.isLoopback && !ip.isUnspecified && !ip.isUnicastLinkLocal then 2
    else if ip.isLoopback then 4
    else 255
  | .v4 ip => if !ip.isLoopback then 1 else 3

/-- The loop over the interfaces; a text that was seen before is left out. -/
def rankAddrs : List IpAddr → List String → List (UInt8 × String)
  | [], _ => []
  | ip :: ips, seen =>
    let host := ip.toString
    if host ∈ seen then rankAddrs ips seen
    else
      let score := announcePriority ip
      if score < 255 then (score, host) :: rankAddrs ips (host :: seen)
      else rankAddrs ips (host :: seen)

/-- The comparison of `sort_by`. -/
def ranksBefore (x y : UInt8 × String) : Bool :=
  decide (x.1.toNat < y.1.toNat) || (x.1 == y.1 && decide (x.2.toList ≤ y.2.toList))

def discoverLinkAddrs (ifAddrs : Option (List IpAddr)) : List String :=
  match ifAddrs with
  | none => []
  | some ips =>
    let addrs := ((rankAddrs ips []).mergeSort ranksBefore).map Prod.snd
    if addrs = [] then ["127.0.0.1", "::1"] else addrs

/-- The loop of `link_addrs`. -/
def unseen : List String → List String → List String
  | [], _ => []
  | addr :: addrs, seen =>
    if addr ∈ seen then unseen addrs seen else addr :: unseen addrs (addr :: seen)

def linkAddrs (ifAddrs : Option (List IpAddr)) (host : String) : List String :=
  let normalized := normalizeHost host
  if hostIsUnspecified normalized then
    let addrs := unseen (discoverLinkAddrs ifAddrs) []
    if addrs = [] then [normalized] else addrs
  else [normalized]

def telegramSocksProxyLink (host : String) (port : UInt16) : String :=
  let host := normalizeHost host
  let server :=
    if ':' ∈ host.toList ∧ host.toList.head? ≠ some '[' ∧ host.toList.getLast? ≠ some ']' then
      "[" ++ host ++ "]"
    else host
  "tg://socks?server=" ++ server ++ "&port=" ++ toString port.toNat

def telegramSocksProxyLinks (ifAddrs : Option (List IpAddr)) (host : String) (port : UInt16) :
    List String :=
  (linkAddrs ifAddrs host).map (telegramSocksProxyLink · port)

end TgWsProxy.Source.Config
