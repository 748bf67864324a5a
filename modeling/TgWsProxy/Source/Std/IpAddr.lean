import TgWsProxy.Library.Bytes
import TgWsProxy.Library.Numerals

/-!
# IP addresses and their texts

The standard library's `IpAddr`: the parser behind `from_str` (decimal octets
without leading zeros, hexadecimal groups, one `::`, a dotted quad in the place of
the last two groups) and the text that `Display` writes, with the longest run of
zero groups compressed and mapped IPv4 addresses in dotted form. Texts are lists
of characters here.
-/

set_option autoImplicit false

namespace TgWsProxy.Source.Std
open Library Library.Numerals

structure Ipv4Addr where
  a : UInt8
  b : UInt8
  c : UInt8
  d : UInt8
  deriving DecidableEq, Repr

/-- Eight groups of sixteen bits. -/
structure Ipv6Addr where
  segments : List UInt16
  size : segments.length = 8
  deriving DecidableEq, Repr

inductive IpAddr where
  | v4 (addr : Ipv4Addr)
  | v6 (addr : Ipv6Addr)
  deriving DecidableEq, Repr

def Ipv4Addr.octets (ip : Ipv4Addr) : Bytes := [ip.a, ip.b, ip.c, ip.d]

def Ipv4Addr.ofOctets (bs : Bytes) : Ipv4Addr :=
  ⟨bs.getD 0 0, bs.getD 1 0, bs.getD 2 0, bs.getD 3 0⟩

/-- `u32::from`. -/
def Ipv4Addr.toU32 (ip : Ipv4Addr) : Nat := ofBE ip.octets

def Ipv6Addr.octets (ip : Ipv6Addr) : Bytes := ip.segments.flatMap fun seg => toBE 2 seg.toNat

def Ipv6Addr.ofOctets (bs : Bytes) : Ipv6Addr where
  segments := (List.range 8).map fun i =>
    UInt16.ofNat (ofBE [bs.getD (2 * i) 0, bs.getD (2 * i + 1) 0])
  size := by simp

/-- `u128::from`. -/
def Ipv6Addr.toU128 (ip : Ipv6Addr) : Nat := ofBE ip.octets

/-! ## Parsing -/

def readGivenChar (target : Char) : List Char → Option (List Char)
  | [] => none
  | c :: rest => if c = target then some rest else none

/-- The separator is due in front of every item but the first. -/
def readSeparator {α : Type} (sep : Char) (index : Nat)
    (inner : List Char → Option (α × List Char)) (text : List Char) : Option (α × List Char) :=
  if 0 < index then do
    let rest ← readGivenChar sep text
    inner rest
  else inner text

def readNumber (radix maxDigits bound : Nat) (allowZeroPrefix : Bool) (text : List Char) :
    Option (Nat × List Char) := do
  let hasLeadingZero := text.head? == some '0'
  let (result, digitCount, rest) ← readDigits radix maxDigits text 0 0
  if digitCount = 0 then none
  else if !allowZeroPrefix && hasLeadingZero && digitCount > 1 then none
  else if result < bound then some (result, rest)
  else none

def readOctet (text : List Char) : Option (UInt8 × List Char) := do
  let (n, rest) ← readNumber 10 3 (2 ^ 8) false text
  return (UInt8.ofNat n, rest)

def readGroup (text : List Char) : Option (UInt16 × List Char) := do
  let (n, rest) ← readNumber 16 4 (2 ^ 16) true text
  return (UInt16.ofNat n, rest)

def readIpv4Addr (text : List Char) : Option (Ipv4Addr × List Char) := do
  let (a, text) ← readSeparator '.' 0 readOctet text
  let (b, text) ← readSeparator '.' 1 readOctet text
  let (c, text) ← readSeparator '.' 2 readOctet text
  let (d, text) ← readSeparator '.' 3 readOctet text
  return (⟨a, b, c, d⟩, text)

/-- The groups read, whether a dotted quad ended them, and the remaining text.
The first argument counts the groups that there is still room for. -/
def readGroups : Nat → List UInt16 → List Char → List UInt16 × Bool × List Char
  | 0, groups, text => (groups, false, text)
  | room + 1, groups, text =>
    let ipv4 := if 0 < room then readSeparator ':' groups.length readIpv4Addr text else none
    match ipv4 with
    | some (ip, rest) =>
      (groups ++ [UInt16.ofNat (ofBE [ip.a, ip.b]), UInt16.ofNat (ofBE [ip.c, ip.d])], true, rest)
    | none =>
      match readSeparator ':' groups.length readGroup text with
      | some (group, rest) => readGroups room (groups ++ [group]) rest
      | none => (groups, false, text)

/-- Groups at the front and at the back of eight, zeros between them. -/
def Ipv6Addr.ofEnds (head tail : List UInt16) : Ipv6Addr where
  segments := (head ++ List.replicate (8 - tail.length - head.length) 0 ++ tail).take 8
  size := by
    simp only [List.length_take, List.length_append, List.length_replicate]
    omega

def readIpv6Addr (text : List Char) : Option (Ipv6Addr × List Char) :=
  let (head, headIpv4, text) := readGroups 8 [] text
  if head.length = 8 then some (.ofEnds head [], text)
  else if headIpv4 then none
  else do
    let text ← readGivenChar ':' text
    let text ← readGivenChar ':' text
    let (tail, _, text) := readGroups (8 - (head.length + 1)) [] text
    return (.ofEnds head tail, text)

def readIpAddr (text : List Char) : Option (IpAddr × List Char) :=
  match readIpv4Addr text with
  | some (ip, rest) => some (.v4 ip, rest)
  | none => (readIpv6Addr text).map fun (ip, rest) => (.v6 ip, rest)

/-- The whole text has to be read. -/
def parseWith {α : Type} (inner : List Char → Option (α × List Char)) (text : List Char) : Option α :=
  match inner text with
  | some (a, []) => some a
  | _ => none

/-- The source bounds the octets of the text; a text for which its characters
would make a difference is refused anyway. -/
def Ipv4Addr.fromStr (s : String) : Option Ipv4Addr :=
  if s.toList.length > 15 then none else parseWith readIpv4Addr s.toList

def Ipv6Addr.fromStr (s : String) : Option Ipv6Addr := parseWith readIpv6Addr s.toList

def IpAddr.fromStr (s : String) : Option IpAddr := parseWith readIpAddr s.toList

/-! ## Formatting -/

def decimal (n : UInt8) : List Char := Nat.toDigits 10 n.toNat

def hexadecimal (n : UInt16) : List Char := Nat.toDigits 16 n.toNat

def Ipv4Addr.format (ip : Ipv4Addr) : List Char :=
  decimal ip.a ++ '.' :: (decimal ip.b ++ '.' :: (decimal ip.c ++ '.' :: decimal ip.d))

def Ipv4Addr.toString (ip : Ipv4Addr) : String := String.ofList ip.format

def Ipv6Addr.toIpv4Mapped (ip : Ipv6Addr) : Option Ipv4Addr :=
  if ip.octets.take 12 = [0, 0, 0, 0, 0, 0, 0, 0, 0, 0, 0xff, 0xff] then
    some (.ofOctets (ip.octets.drop 12))
  else none

structure Span where
  start : Nat
  len : Nat
  deriving DecidableEq, Repr

/-- The first of the longest runs of zeros, from index `i` on. -/
def longestZeros : Nat → List UInt16 → Span → Span → Span
  | _, [], longest, _ => longest
  | i, seg :: segs, longest, current =>
    if seg = 0 then
      let current : Span := ⟨if current.len = 0 then i else current.start, current.len + 1⟩
      longestZeros (i + 1) segs (if current.len > longest.len then current else longest) current
    else longestZeros (i + 1) segs longest ⟨0, 0⟩

def fmtSubslice : List UInt16 → List Char
  | [] => []
  | first :: tail => hexadecimal first ++ tail.flatMap fun seg => ':' :: hexadecimal seg

def Ipv6Addr.format (ip : Ipv6Addr) : List Char :=
  match ip.toIpv4Mapped with
  | some ipv4 => "::ffff:".toList ++ ipv4.format
  | none =>
    let zeroes := longestZeros 0 ip.segments ⟨0, 0⟩ ⟨0, 0⟩
    if zeroes.len > 1 then
      fmtSubslice (ip.segments.take zeroes.start) ++ "::".toList ++
        fmtSubslice (ip.segments.drop (zeroes.start + zeroes.len))
    else fmtSubslice ip.segments

def Ipv6Addr.toString (ip : Ipv6Addr) : String := String.ofList ip.format

end TgWsProxy.Source.Std
