import TgWsProxy.Source.Std.IpAddr

/-!
# Telegram address catalog

`modules/telegram/catalog.rs`: the static table from IPv4 addresses to data
centres, the IPv4 and IPv6 ranges that count as Telegram's, and the WebSocket
domains of a data centre. The tables keep the source's texts, which it parses
once; `unwrap` on a text that does not parse would be a panic there, and
`catalog_parses` says that none of them is such a text.
-/

set_option autoImplicit false

namespace TgWsProxy.Source.Telegram
open Source.Std

structure TelegramIpEntry where
  dc : UInt8
  isMedia : Bool
  deriving DecidableEq, Repr

def ipToU32 (ip : String) : Nat := ((Ipv4Addr.fromStr ip).map Ipv4Addr.toU32).getD 0

def ipv6ToU128 (ip : String) : Nat := ((Ipv6Addr.fromStr ip).map Ipv6Addr.toU128).getD 0

/-- Start, end, data centre and media flag. -/
def ipToDcRows : List (String × String × UInt8 × Bool) :=
  [("149.154.175.50", "149.154.175.50", 1, false),
   ("149.154.175.51", "149.154.175.51", 1, false),
   ("149.154.175.53", "149.154.175.53", 1, false),
   ("149.154.175.54", "149.154.175.54", 1, false),
   ("149.154.175.52", "149.154.175.52", 1, true),
   ("149.154.167.220", "149.154.167.220", 2, false),
   ("149.154.167.41", "149.154.167.41", 2, false),
   ("149.154.167.50", "149.154.167.50", 2, false),
   ("149.154.167.51", "149.154.167.51", 2, false),
   ("95.161.76.100", "95.161.76.100", 2, false),
   ("149.154.167.35", "149.154.167.35", 2, true),
   ("149.154.167.222", "149.154.167.222", 2, true),
   ("149.154.167.151", "149.154.167.151", 2, true),
   ("149.154.167.223", "149.154.167.223", 2, true),
   ("149.154.162.123", "149.154.162.123", 2, true),
   ("149.154.175.100", "149.154.175.100", 3, false),
   ("149.154.175.101", "149.154.175.101", 3, false),
   ("149.154.175.102", "149.154.175.102", 3, true),
   ("149.154.167.91", "149.154.167.91", 4, false),
   ("149.154.167.92", "149.154.167.92", 4, false),
   ("149.154.164.250", "149.154.164.250", 4, true),
   ("149.154.166.120", "149.154.166.120", 4, true),
   ("149.154.166.121", "149.154.166.121", 4, true),
   ("149.154.167.118", "149.154.167.118", 4, true),
   ("149.154.165.111", "149.154.165.111", 4, true),
   ("91.108.56.100", "91.108.56.100", 5, false),
   ("91.108.56.101", "91.108.56.101", 5, false),
   ("91.108.56.116", "91.108.56.116", 5, false),
   ("91.108.56.126", "91.108.56.126", 5, false),
   ("149.154.171.5", "149.154.171.5", 5, false),
   ("91.108.56.102", "91.108.56.102", 5, true),
   ("91.108.56.128", "91.108.56.128", 5, true),
   ("91.108.56.151", "91.108.56.151", 5, true)]

def range (row : String × String × UInt8 × Bool) : Nat × Nat × TelegramIpEntry :=
  (ipToU32 row.1, ipToU32 row.2.1, ⟨row.2.2.1, row.2.2.2⟩)

def tgIpv4Ranges : List (String × String) :=
  [("185.76.151.0", "185.76.151.255"),
   ("149.154.160.0", "149.154.175.255"),
   ("91.105.192.0", "91.105.193.255"),
   ("91.108.0.0", "91.108.255.255")]

def tgIpv6Ranges : List (String × String) :=
  [("2001:67c:4e8::", "2001:67c:4e8:ffff:ffff:ffff:ffff:ffff"),
   ("2001:b28:f23d::", "2001:b28:f23d:ffff:ffff:ffff:ffff:ffff"),
   ("2001:b28:f23f::", "2001:b28:f23f:ffff:ffff:ffff:ffff:ffff")]

/-- Every text parses, and every row of the static table is a single address. -/
theorem catalog_parses :
    (∀ row ∈ ipToDcRows, row.2.1 = row.1 ∧ (Ipv4Addr.fromStr row.1).isSome) ∧
    (∀ row ∈ tgIpv4Ranges, (Ipv4Addr.fromStr row.1).isSome ∧ (Ipv4Addr.fromStr row.2).isSome) ∧
    (∀ row ∈ tgIpv6Ranges, (Ipv6Addr.fromStr row.1).isSome ∧ (Ipv6Addr.fromStr row.2).isSome) := by
  decide +kernel

def isTelegramIp (ip : String) : Bool :=
  match IpAddr.fromStr ip with
  | some (.v4 ip) =>
    tgIpv4Ranges.any fun row => ipToU32 row.1 ≤ ip.toU32 && ip.toU32 ≤ ipToU32 row.2
  | some (.v6 ip) =>
    tgIpv6Ranges.any fun row => ipv6ToU128 row.1 ≤ ip.toU128 && ip.toU128 ≤ ipv6ToU128 row.2
  | none => false

def ipToDc (ip : String) : Option TelegramIpEntry := do
  let parsed ← Ipv4Addr.fromStr ip
  let value := parsed.toU32
  let row ← (ipToDcRows.map range).find? fun row => row.1 ≤ value && value ≤ row.2.1
  return row.2.2

def wsDomains (dc : UInt8) (isMedia : Bool) : List String :=
  let plain := "kws" ++ toString dc.toNat ++ ".web.telegram.org"
  let media := "kws" ++ toString dc.toNat ++ "-1.web.telegram.org"
  if isMedia then [media, plain] else [plain, media]

/-- Every row of the static table names one of the five data centres. -/
theorem ipToDc_dc (ip : String) (entry : TelegramIpEntry) (h : ipToDc ip = some entry) :
    1 ≤ entry.dc ∧ entry.dc ≤ 5 := by
  have hrows : ∀ row ∈ ipToDcRows, 1 ≤ row.2.2.1 ∧ row.2.2.1 ≤ 5 := by decide
  unfold ipToDc at h
  obtain ⟨parsed, -, h⟩ := Option.bind_eq_some_iff.mp h
  obtain ⟨found, hfind, h⟩ := Option.bind_eq_some_iff.mp h
  obtain rfl := Option.some.inj h
  obtain ⟨row, hrow, rfl⟩ := List.mem_map.mp (List.mem_of_find?_eq_some hfind)
  exact hrows row hrow

end TgWsProxy.Source.Telegram
