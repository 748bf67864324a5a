import Mathlib.Logic.Function.Basic
import TgWsProxy.Source.Telegram.Catalog

/-!
# Learned IPv6 mappings

`modules/routing/ipv6_cache.rs`: a map from addresses to data centres, read and
written through the textual host.
-/

set_option autoImplicit false

namespace TgWsProxy.Source.Routing
open Source.Std Source.Telegram

structure Ipv6Cache where
  entries : Ipv6Addr → Option TelegramIpEntry

namespace Ipv6Cache

def empty : Ipv6Cache := ⟨fun _ => none⟩

def learnedIpv6Entry (cache : Ipv6Cache) (host : String) : Option TelegramIpEntry := do
  let ip ← Ipv6Addr.fromStr host
  cache.entries ip

def rememberIpv6Entry (cache : Ipv6Cache) (host : String) (entry : TelegramIpEntry) : Ipv6Cache :=
  match Ipv6Addr.fromStr host with
  | none => cache
  | some ip => ⟨Function.update cache.entries ip (some entry)⟩

end Ipv6Cache

end TgWsProxy.Source.Routing
