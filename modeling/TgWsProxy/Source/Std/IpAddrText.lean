import TgWsProxy.Source.Std.IpAddr

/-!
# Address texts are read back

Every address is read back from the text that `Display` writes for it, through
the parser of its own family and through the one that tries both. A colon tells
the two families apart: `IpAddr.colon_iff` is what the program's `is_ipv6` relies
on.
-/

set_option autoImplicit false

namespace TgWsProxy.Source.Std
open Library Library.Numerals

/-! ## Numbers and groups -/

theorem readNumber_toDigits (radix maxDigits bound : Nat) (allow : Bool) (n : Nat) (rest : List Char)
    (hone : 1 < radix) (hradix : radix ≤ 16) (hmax : 0 < maxDigits) (fits : n < radix ^ maxDigits)
    (hbound : n < bound) (stop : ∀ c ∈ rest.head?, isDigit radix c = false) :
    readNumber radix maxDigits bound allow (Nat.toDigits radix n ++ rest) = some (n, rest) := by
  have hlen := (Nat.length_toDigits_le_iff hone hmax).mpr fits
  have hpos : 0 < (Nat.toDigits radix n).length := Nat.length_toDigits_pos
  have hread := readDigits_append radix maxDigits (Nat.toDigits radix n) rest 0 0
    (isDigit_of_mem_toDigits radix n hone hradix) (by omega) stop
  rw [valueOf_toDigits radix n hone hradix, Nat.zero_add] at hread
  unfold readNumber
  rw [hread]
  simp only [Option.bind_eq_bind, Option.bind_some]
  rw [if_neg (by omega)]
  have hzero : ¬ (!allow && ((Nat.toDigits radix n ++ rest).head? == some '0') &&
      decide ((Nat.toDigits radix n).length > 1)) = true := by
    intro h
    simp only [Bool.and_eq_true, beq_iff_eq, decide_eq_true_eq] at h
    obtain ⟨⟨-, hhead⟩, hmore⟩ := h
    rw [List.head?_append_of_ne_nil _ Nat.toDigits_ne_nil] at hhead
    rw [toDigits_head radix n hone hradix hhead, Nat.toDigits_zero] at hmore
    simp at hmore
  rw [if_neg hzero, if_pos hbound]

theorem readNumber_rest (radix maxDigits bound : Nat) (allow : Bool) (text rest : List Char) (n : Nat)
    (h : readNumber radix maxDigits bound allow text = some (n, rest)) :
    rest = text.dropWhile (isDigit radix) ∧ 0 < (text.takeWhile (isDigit radix)).length := by
  unfold readNumber at h
  simp only [Option.bind_eq_bind] at h
  obtain ⟨⟨result, count, rest'⟩, hread, h⟩ := Option.bind_eq_some_iff.mp h
  obtain ⟨hrest, hcount⟩ := readDigits_rest radix maxDigits text rest' 0 0 result count hread
  dsimp only at h
  split at h
  · cases h
  · split at h
    · cases h
    · split at h
      · obtain ⟨rfl, rfl⟩ := Prod.mk.inj (Option.some.inj h)
        exact ⟨hrest, by omega⟩
      · cases h

theorem readOctet_decimal (n : UInt8) (rest : List Char)
    (stop : ∀ c ∈ rest.head?, isDigit 10 c = false) :
    readOctet (decimal n ++ rest) = some (n, rest) := by
  have hlt := n.toNat_lt
  rw [readOctet, decimal, readNumber_toDigits 10 3 (2 ^ 8) false n.toNat rest (by omega) (by omega)
    (by omega) (by omega) (by omega) stop]
  simp

theorem readGroup_hexadecimal (n : UInt16) (rest : List Char)
    (stop : ∀ c ∈ rest.head?, isDigit 16 c = false) :
    readGroup (hexadecimal n ++ rest) = some (n, rest) := by
  have hlt := n.toNat_lt
  rw [readGroup, hexadecimal, readNumber_toDigits 16 4 (2 ^ 16) true n.toNat rest (by omega) (by omega)
    (by omega) (by omega) (by omega) stop]
  simp

/-! ## IPv4 -/

theorem readIpv4Addr_format (ip : Ipv4Addr) (rest : List Char)
    (stop : ∀ c ∈ rest.head?, isDigit 10 c = false) :
    readIpv4Addr (ip.format ++ rest) = some (ip, rest) := by
  have hdot : ∀ (text : List Char), ∀ c ∈ ('.' :: text).head?, isDigit 10 c = false := by
    intro text c hc
    obtain rfl := Option.some.inj hc
    decide
  simp only [readIpv4Addr, Ipv4Addr.format, List.append_assoc, List.cons_append, readSeparator,
    readGivenChar, if_true, Nat.lt_irrefl, if_false, Nat.zero_lt_succ, Option.bind_eq_bind, Option.bind_some, 
    readOctet_decimal ip.a _ (hdot _), readOctet_decimal ip.b _ (hdot _),
    readOctet_decimal ip.c _ (hdot _), readOctet_decimal ip.d rest stop]
  rfl

theorem decimal_length (n : UInt8) : (decimal n).length ≤ 3 :=
  (Nat.length_toDigits_le_iff (by omega) (by omega)).mpr (by have := n.toNat_lt; omega)

theorem Ipv4Addr.format_length (ip : Ipv4Addr) : ip.format.length ≤ 15 := by
  have ha := decimal_length ip.a
  have hb := decimal_length ip.b
  have hc := decimal_length ip.c
  have hd := decimal_length ip.d
  simp only [Ipv4Addr.format, List.length_append, List.length_cons]
  omega

theorem Ipv4Addr.fromStr_toString (ip : Ipv4Addr) : Ipv4Addr.fromStr ip.toString = some ip := by
  have hlen := ip.format_length
  have hread := readIpv4Addr_format ip [] (by simp)
  rw [List.append_nil] at hread
  rw [fromStr, Ipv4Addr.toString, String.toList_ofList, if_neg (by omega), parseWith, hread]

theorem IpAddr.fromStr_ipv4 (ip : Ipv4Addr) : IpAddr.fromStr ip.toString = some (.v4 ip) := by
  have hread := readIpv4Addr_format ip [] (by simp)
  rw [List.append_nil] at hread
  rw [fromStr, Ipv4Addr.toString, String.toList_ofList, parseWith, readIpAddr, hread]

/-- A dotted quad is not mistaken for the text of a group. -/
theorem readIpv4Addr_hexadecimal (n : UInt16) (rest : List Char)
    (stop : ∀ c ∈ rest.head?, c = ':') : readIpv4Addr (hexadecimal n ++ rest) = none := by
  have hhead : ∀ digits : List Char, (∀ c ∈ digits, c ≠ '.') →
      ∀ c ∈ ((digits ++ rest).dropWhile (isDigit 10)).head?, c ≠ '.' := by
    intro digits hdigits
    induction digits with
    | nil =>
      cases rest with
      | nil => simp
      | cons c rest =>
        obtain rfl := stop c rfl
        intro c hc
        have hcolon : isDigit 10 ':' = false := by decide
        simp only [List.nil_append, List.dropWhile_cons, hcolon, Bool.false_eq_true, if_false] at hc
        obtain rfl := Option.some.inj hc
        decide
    | cons d digits ih =>
      rw [List.cons_append, List.dropWhile_cons]
      split
      · exact ih fun c hc => hdigits c (List.mem_cons_of_mem d hc)
      · intro c hc
        obtain rfl := Option.some.inj hc
        exact hdigits d List.mem_cons_self
  have hdigits : ∀ c ∈ hexadecimal n, c ≠ '.' := by
    intro c hc hdot
    have := isDigit_of_mem_toDigits 16 n.toNat (by omega) (by omega) c hc
    rw [hdot] at this
    revert this
    decide
  unfold readIpv4Addr
  simp only [readSeparator, Nat.lt_irrefl, if_false, Option.bind_eq_bind]
  rw [Option.bind_eq_none_iff]
  intro ⟨a, after⟩ hread
  unfold readOctet at hread
  obtain ⟨⟨v, after'⟩, hnumber, hpure⟩ := Option.bind_eq_some_iff.mp hread
  obtain ⟨rfl, rfl⟩ := Prod.mk.inj (Option.some.inj hpure)
  obtain ⟨hafter, -⟩ := readNumber_rest _ _ _ _ _ _ _ hnumber
  have hnone : readGivenChar '.' after' = none := by
    cases hcase : after' with
    | nil => rfl
    | cons c text =>
      have hc := hhead (hexadecimal n) hdigits c (by rw [← hafter, hcase]; rfl)
      rw [readGivenChar, if_neg hc]
  simp [hnone]

/-! ## IPv6 -/

/-- Texts that end the groups: nothing more, or the `::`. -/
def EndsGroups (text : List Char) : Prop := text = [] ∨ ∃ rest, text = ':' :: ':' :: rest

/-- The groups behind a first one. -/
def moreGroups (segs : List UInt16) : List Char := segs.flatMap fun seg => ':' :: hexadecimal seg

theorem fmtSubslice_cons (seg : UInt16) (segs : List UInt16) :
    fmtSubslice (seg :: segs) = hexadecimal seg ++ moreGroups segs := rfl

theorem moreGroups_head (segs : List UInt16) (rest : List Char) (ends : EndsGroups rest) :
    ∀ c ∈ (moreGroups segs ++ rest).head?, c = ':' := by
  cases segs with
  | nil =>
    rcases ends with rfl | ⟨rest, rfl⟩
    · simp [moreGroups]
    · simp [moreGroups]
  | cons seg segs => simp [moreGroups]

theorem not_hex_of_colon (text : List Char) (h : ∀ c ∈ text.head?, c = ':') :
    ∀ c ∈ text.head?, isDigit 16 c = false := by
  intro c hc
  rw [h c hc]
  decide

/-- Neither a group nor a dotted quad starts at a colon or at the end. -/
theorem read_none_of_colon (text : List Char) (h : ∀ c ∈ text.head?, c = ':') :
    readIpv4Addr text = none ∧ readGroup text = none := by
  cases text with
  | nil => exact ⟨rfl, rfl⟩
  | cons c text =>
    obtain rfl := h c rfl
    exact ⟨rfl, rfl⟩

theorem readGroups_end (room : Nat) (groups : List UInt16) (rest : List Char)
    (ends : EndsGroups rest) : readGroups room groups rest = (groups, false, rest) := by
  cases room with
  | zero => rfl
  | succ room =>
    have hread : readSeparator ':' groups.length readIpv4Addr rest = none ∧
        readSeparator ':' groups.length readGroup rest = none := by
      unfold readSeparator
      by_cases hindex : 0 < groups.length
      · rw [if_pos hindex, if_pos hindex]
        rcases ends with rfl | ⟨rest, rfl⟩
        · exact ⟨rfl, rfl⟩
        · exact read_none_of_colon (':' :: rest) (by simp)
      · rw [if_neg hindex, if_neg hindex]
        exact read_none_of_colon rest (moreGroups_head [] rest ends)
    rw [readGroups]
    simp only [hread.1, hread.2, ite_self]

/-- Reading one group, the separator in front of it included. -/
theorem readGroups_step (room : Nat) (groups : List UInt16) (seg : UInt16) (text : List Char)
    (hcolon : ∀ c ∈ text.head?, c = ':') :
    readGroups (room + 1) groups
        ((if 0 < groups.length then [':'] else []) ++ (hexadecimal seg ++ text)) =
      readGroups room (groups ++ [seg]) text := by
  have hipv4 := readIpv4Addr_hexadecimal seg text hcolon
  have hgroup := readGroup_hexadecimal seg text (not_hex_of_colon text hcolon)
  rw [readGroups]
  by_cases hindex : 0 < groups.length
  · simp [readSeparator, hindex, readGivenChar, hipv4, hgroup]
  · simp [readSeparator, hindex, hipv4, hgroup]

theorem readGroups_moreGroups (segs groups : List UInt16) (room : Nat) (rest : List Char)
    (started : 0 < groups.length) (fits : segs.length ≤ room) (ends : EndsGroups rest) :
    readGroups room groups (moreGroups segs ++ rest) = (groups ++ segs, false, rest) := by
  induction segs generalizing groups room with
  | nil => simpa [moreGroups] using readGroups_end room groups rest ends
  | cons seg segs ih =>
    obtain ⟨room, rfl⟩ : ∃ k, room = k + 1 := ⟨room - 1, by simp at fits; omega⟩
    have hstep := readGroups_step room groups seg (moreGroups segs ++ rest)
      (moreGroups_head segs rest ends)
    rw [if_pos started] at hstep
    have htext : moreGroups (seg :: segs) ++ rest =
        [':'] ++ (hexadecimal seg ++ (moreGroups segs ++ rest)) := by
      simp [moreGroups]
    rw [htext, hstep, ih (groups ++ [seg]) room (by simp) (by simpa using fits)]
    simp

/-- Groups written with separators between them are read back. -/
theorem readGroups_fmtSubslice (segs : List UInt16) (room : Nat) (rest : List Char)
    (fits : segs.length ≤ room) (ends : EndsGroups rest) :
    readGroups room [] (fmtSubslice segs ++ rest) = (segs, false, rest) := by
  cases segs with
  | nil => exact readGroups_end room [] rest ends
  | cons seg segs =>
    obtain ⟨room, rfl⟩ : ∃ k, room = k + 1 := ⟨room - 1, by simp at fits; omega⟩
    have hstep := readGroups_step room [] seg (moreGroups segs ++ rest)
      (moreGroups_head segs rest ends)
    simp only [List.length_nil, Nat.lt_irrefl, if_false, List.nil_append] at hstep
    rw [fmtSubslice_cons, List.append_assoc, hstep,
      readGroups_moreGroups segs [seg] room rest (by simp) (by simpa using fits) ends]
    rfl

/-- A run of zeros inside the list. -/
def ZeroRun (segs : List UInt16) (run : Span) : Prop :=
  run.start + run.len ≤ segs.length ∧ (segs.drop run.start).take run.len = List.replicate run.len 0

/-- `longest` stays a run of zeros; `current` is one that ends where the scan is. -/
theorem longestZeros_zeroRun (before segs : List UInt16) (longest current : Span)
    (hlongest : ZeroRun (before ++ segs) longest)
    (hcurrent : current.len = 0 ∨ current.start + current.len = before.length ∧
      before.drop current.start = List.replicate current.len 0) :
    ZeroRun (before ++ segs) (longestZeros before.length segs longest current) := by
  induction segs generalizing before longest current with
  | nil => exact hlongest
  | cons seg segs ih =>
    have happend : before ++ seg :: segs = (before ++ [seg]) ++ segs := by simp
    have hlength : before.length + 1 = (before ++ [seg]).length := by simp
    rw [longestZeros]
    split
    · rename_i hseg
      subst hseg
      dsimp only
      have hnext : ∀ start, start + current.len = before.length →
          before.drop start = List.replicate current.len 0 →
          start + (current.len + 1) = (before ++ [0]).length ∧
            (before ++ [0]).drop start = List.replicate (current.len + 1) 0 := by
        intro start hend hzeros
        refine ⟨by simp; omega, ?_⟩
        rw [List.drop_append_of_le_length (by omega), hzeros, List.replicate_succ']
      have hrun : (if current.len = 0 then before.length else current.start) + (current.len + 1) =
            (before ++ [0]).length ∧
          (before ++ [0]).drop (if current.len = 0 then before.length else current.start) =
            List.replicate (current.len + 1) 0 := by
        split
        · rename_i hzero
          exact hnext before.length (by omega) (by simp [hzero])
        · rename_i hpos
          rcases hcurrent with hzero | ⟨hend, hzeros⟩
          · exact absurd hzero hpos
          · exact hnext current.start hend hzeros
      rw [happend, hlength]
      apply ih
      · rw [← happend]
        split
        · obtain ⟨hend, hzeros⟩ := hrun
          refine ⟨?_, ?_⟩
          · simp only [List.length_append, List.length_cons, List.length_nil] at hend ⊢
            omega
          · dsimp only
            rw [happend, List.drop_append_of_le_length (by omega), hzeros,
              List.take_append_of_le_length (by simp), List.take_replicate, Nat.min_self]
        · exact hlongest
      · exact .inr hrun
    · rw [happend, hlength]
      apply ih
      · rw [← happend]
        exact hlongest
      · exact .inl rfl

theorem Ipv6Addr.ofEnds_zeroRun (ip : Ipv6Addr) (run : Span) (h : ZeroRun ip.segments run) :
    ofEnds (ip.segments.take run.start) (ip.segments.drop (run.start + run.len)) = ip := by
  obtain ⟨segs, size⟩ := ip
  obtain ⟨hend, hzeros⟩ := h
  dsimp only at hend hzeros ⊢
  have hzeroCount : 8 - (segs.drop (run.start + run.len)).length - (segs.take run.start).length =
      run.len := by
    simp only [List.length_drop, List.length_take]
    omega
  have hsegs : segs.take run.start ++ List.replicate run.len 0 ++
      segs.drop (run.start + run.len) = segs := by
    rw [← hzeros, List.append_assoc, ← List.drop_drop, List.take_append_drop, List.take_append_drop]
  unfold ofEnds
  congr 1
  rw [hzeroCount, hsegs, ← size, List.take_length]

theorem Ipv6Addr.ofEnds_whole (ip : Ipv6Addr) : ofEnds ip.segments [] = ip := by
  obtain ⟨segs, size⟩ := ip
  unfold ofEnds
  congr 1
  simp [size]

/-- A group is its two octets. -/
theorem group_octets (seg : UInt16) :
    ∃ high low, toBE 2 seg.toNat = [high, low] ∧ seg = UInt16.ofNat (ofBE [high, low]) := by
  obtain ⟨high, low, hoctets⟩ := List.length_eq_two.mp (toBE_length 2 seg.toNat)
  refine ⟨high, low, hoctets, ?_⟩
  have hlt := seg.toNat_lt
  rw [← hoctets, ofBE_toBE 2 seg.toNat (by omega), UInt16.ofNat_toNat]

/-- The groups of a mapped address. -/
theorem Ipv6Addr.eq_of_toIpv4Mapped (ip : Ipv6Addr) (ipv4 : Ipv4Addr)
    (h : ip.toIpv4Mapped = some ipv4) :
    ip = ofEnds [] [0xffff, UInt16.ofNat (ofBE [ipv4.a, ipv4.b]),
      UInt16.ofNat (ofBE [ipv4.c, ipv4.d])] := by
  unfold toIpv4Mapped at h
  split at h
  · rename_i htake
    obtain rfl := Option.some.inj h
    match ip, htake with
    | ⟨[s0, s1, s2, s3, s4, s5, s6, s7], size⟩, htake =>
      obtain ⟨h0, l0, e0, g0⟩ := group_octets s0
      obtain ⟨h1, l1, e1, g1⟩ := group_octets s1
      obtain ⟨h2, l2, e2, g2⟩ := group_octets s2
      obtain ⟨h3, l3, e3, g3⟩ := group_octets s3
      obtain ⟨h4, l4, e4, g4⟩ := group_octets s4
      obtain ⟨h5, l5, e5, g5⟩ := group_octets s5
      obtain ⟨h6, l6, e6, g6⟩ := group_octets s6
      obtain ⟨h7, l7, e7, g7⟩ := group_octets s7
      have hoctets : octets ⟨[s0, s1, s2, s3, s4, s5, s6, s7], size⟩ =
          [h0, l0, h1, l1, h2, l2, h3, l3, h4, l4, h5, l5, h6, l6, h7, l7] := by
        simp [octets, e0, e1, e2, e3, e4, e5, e6, e7]
      rw [hoctets] at htake ⊢
      simp only [List.take_succ_cons, List.take_zero, List.cons.injEq, and_true] at htake
      obtain ⟨rfl, rfl, rfl, rfl, rfl, rfl, rfl, rfl, rfl, rfl, rfl, rfl⟩ := htake
      unfold ofEnds
      congr 1
      rw [g0, g1, g2, g3, g4, g5, g6, g7]
      rfl
  · cases h

/-- A dotted quad is read in the place of the last two groups. -/
theorem readGroups_mapped (ipv4 : Ipv4Addr) :
    readGroups 7 [] ("ffff:".toList ++ ipv4.format) =
      ([0xffff, UInt16.ofNat (ofBE [ipv4.a, ipv4.b]), UInt16.ofNat (ofBE [ipv4.c, ipv4.d])],
        true, []) := by
  have hquad := readIpv4Addr_format ipv4 [] (by simp)
  rw [List.append_nil] at hquad
  have htext : "ffff:".toList ++ ipv4.format = hexadecimal 0xffff ++ ':' :: ipv4.format := rfl
  have hstep := readGroups_step 6 [] 0xffff (':' :: ipv4.format) (by simp)
  simp only [List.length_nil, Nat.lt_irrefl, if_false, List.nil_append] at hstep
  rw [htext, hstep, readGroups]
  simp [readSeparator, readGivenChar, hquad]

theorem readIpv6Addr_format (ip : Ipv6Addr) : readIpv6Addr ip.format = some (ip, []) := by
  have hsize := ip.size
  unfold Ipv6Addr.format
  cases hmapped : ip.toIpv4Mapped with
  | some ipv4 =>
    have hhead : readGroups 8 [] ("::ffff:".toList ++ ipv4.format) =
        ([], false, ':' :: ':' :: ("ffff:".toList ++ ipv4.format)) :=
      readGroups_end 8 [] _ (.inr ⟨_, rfl⟩)
    unfold readIpv6Addr
    rw [hhead]
    simp only [List.length_nil, readGivenChar, if_true, Option.bind_eq_bind, Option.bind_some,
      show 8 - (0 + 1) = 7 from rfl, readGroups_mapped]
    rw [← ip.eq_of_toIpv4Mapped ipv4 hmapped]
    rfl
  | none =>
    dsimp only
    split
    · rename_i hlen
      have hrun := longestZeros_zeroRun [] ip.segments ⟨0, 0⟩ ⟨0, 0⟩ ⟨by simp, by simp⟩ (.inl rfl)
      simp only [List.nil_append, List.length_nil] at hrun
      generalize longestZeros 0 ip.segments ⟨0, 0⟩ ⟨0, 0⟩ = run at hlen hrun ⊢
      have hend := hrun.1
      have hheadLen : (ip.segments.take run.start).length = run.start := by
        rw [List.length_take]
        omega
      have htailLen : (ip.segments.drop (run.start + run.len)).length = 8 - (run.start + run.len) := by
        rw [List.length_drop, hsize]
      have hhead := readGroups_fmtSubslice (ip.segments.take run.start) 8
        (':' :: ':' :: fmtSubslice (ip.segments.drop (run.start + run.len))) (by omega)
        (.inr ⟨_, rfl⟩)
      have htail := readGroups_fmtSubslice (ip.segments.drop (run.start + run.len))
        (8 - (run.start + 1)) [] (by omega) (.inl rfl)
      rw [List.append_nil] at htail
      have htext : fmtSubslice (ip.segments.take run.start) ++ "::".toList ++
          fmtSubslice (ip.segments.drop (run.start + run.len)) =
          fmtSubslice (ip.segments.take run.start) ++
            ':' :: ':' :: fmtSubslice (ip.segments.drop (run.start + run.len)) := by
        simp
      unfold readIpv6Addr
      rw [htext, hhead]
      dsimp only
      rw [if_neg (by omega), hheadLen]
      simp only [Bool.false_eq_true, if_false, readGivenChar, if_true, Option.bind_eq_bind,
        Option.bind_some, htail]
      rw [ip.ofEnds_zeroRun run hrun]
      rfl
    · have hread := readGroups_fmtSubslice ip.segments 8 [] (by omega) (.inl rfl)
      rw [List.append_nil] at hread
      unfold readIpv6Addr
      rw [hread]
      dsimp only
      rw [if_pos hsize, ip.ofEnds_whole]

theorem Ipv6Addr.fromStr_toString (ip : Ipv6Addr) : Ipv6Addr.fromStr ip.toString = some ip := by
  rw [fromStr, Ipv6Addr.toString, String.toList_ofList, parseWith, readIpv6Addr_format]

theorem fmtSubslice_not_ipv4 (segs : List UInt16) (rest : List Char) (ends : EndsGroups rest) :
    readIpv4Addr (fmtSubslice segs ++ rest) = none := by
  cases segs with
  | nil => exact (read_none_of_colon rest (moreGroups_head [] rest ends)).1
  | cons seg segs =>
    rw [fmtSubslice_cons, List.append_assoc]
    exact readIpv4Addr_hexadecimal seg _ (moreGroups_head segs rest ends)

theorem IpAddr.fromStr_ipv6 (ip : Ipv6Addr) : IpAddr.fromStr ip.toString = some (.v6 ip) := by
  have hnot : readIpv4Addr ip.format = none := by
    unfold Ipv6Addr.format
    split
    · rfl
    · dsimp only
      split
      · rw [List.append_assoc]
        exact fmtSubslice_not_ipv4 _ _ (.inr ⟨_, rfl⟩)
      · have hend := fmtSubslice_not_ipv4 ip.segments [] (.inl rfl)
        rwa [List.append_nil] at hend
  rw [fromStr, Ipv6Addr.toString, String.toList_ofList, parseWith, readIpAddr, hnot]
  dsimp only
  rw [readIpv6Addr_format]
  rfl

/-! ## The colon tells the families apart -/

theorem readSeparator_some {α : Type} (sep : Char) (index : Nat)
    (inner : List Char → Option (α × List Char)) (text rest : List Char) (a : α)
    (h : readSeparator sep index inner text = some (a, rest)) :
    ∃ item, text = (if 0 < index then [sep] else []) ++ item ∧ inner item = some (a, rest) := by
  unfold readSeparator at h
  split at h
  · rename_i hindex
    obtain ⟨item, hsep, hinner⟩ := Option.bind_eq_some_iff.mp h
    cases text with
    | nil => cases hsep
    | cons c text =>
      rw [readGivenChar] at hsep
      split at hsep
      · rename_i hc
        obtain rfl := Option.some.inj hsep
        exact ⟨text, by rw [if_pos hindex, hc]; rfl, hinner⟩
      · cases hsep
  · rename_i hindex
    exact ⟨text, by rw [if_neg hindex]; rfl, h⟩

theorem readNumber_used (radix maxDigits bound : Nat) (allow : Bool) (text rest : List Char) (n : Nat)
    (hcolon : isDigit radix ':' = false)
    (h : readNumber radix maxDigits bound allow text = some (n, rest)) :
    ∃ used, text = used ++ rest ∧ ':' ∉ used := by
  obtain ⟨hrest, -⟩ := readNumber_rest radix maxDigits bound allow text rest n h
  refine ⟨text.takeWhile (isDigit radix), ?_, ?_⟩
  · rw [hrest, List.takeWhile_append_dropWhile]
  · intro hmem
    have hdigit := List.mem_takeWhile_imp hmem
    rw [hcolon] at hdigit
    cases hdigit

theorem readOctet_used (text rest : List Char) (n : UInt8) (h : readOctet text = some (n, rest)) :
    ∃ used, text = used ++ rest ∧ ':' ∉ used := by
  obtain ⟨⟨v, rest'⟩, hnumber, hpure⟩ := Option.bind_eq_some_iff.mp h
  obtain ⟨-, rfl⟩ := Prod.mk.inj (Option.some.inj hpure)
  exact readNumber_used 10 3 (2 ^ 8) false text rest' v (by decide) hnumber

theorem readGroup_used (text rest : List Char) (n : UInt16) (h : readGroup text = some (n, rest)) :
    ∃ used, text = used ++ rest ∧ ':' ∉ used := by
  obtain ⟨⟨v, rest'⟩, hnumber, hpure⟩ := Option.bind_eq_some_iff.mp h
  obtain ⟨-, rfl⟩ := Prod.mk.inj (Option.some.inj hpure)
  exact readNumber_used 16 4 (2 ^ 16) true text rest' v (by decide) hnumber

theorem readDotted_used (index : Nat) (text rest : List Char) (n : UInt8)
    (h : readSeparator '.' index readOctet text = some (n, rest)) :
    ∃ used, text = used ++ rest ∧ ':' ∉ used := by
  obtain ⟨item, rfl, hoctet⟩ := readSeparator_some '.' index readOctet text rest n h
  obtain ⟨used, rfl, hused⟩ := readOctet_used item rest n hoctet
  refine ⟨(if 0 < index then ['.'] else []) ++ used, by rw [List.append_assoc], ?_⟩
  split <;> simp [hused]

theorem readIpv4Addr_used (text rest : List Char) (ip : Ipv4Addr)
    (h : readIpv4Addr text = some (ip, rest)) : ∃ used, text = used ++ rest ∧ ':' ∉ used := by
  unfold readIpv4Addr at h
  obtain ⟨⟨a, r1⟩, ha, h⟩ := Option.bind_eq_some_iff.mp h
  obtain ⟨⟨b, r2⟩, hb, h⟩ := Option.bind_eq_some_iff.mp h
  obtain ⟨⟨c, r3⟩, hc, h⟩ := Option.bind_eq_some_iff.mp h
  obtain ⟨⟨d, r4⟩, hd, h⟩ := Option.bind_eq_some_iff.mp h
  obtain ⟨-, rfl⟩ := Prod.mk.inj (Option.some.inj h)
  obtain ⟨u1, rfl, n1⟩ := readDotted_used 0 text r1 a ha
  obtain ⟨u2, rfl, n2⟩ := readDotted_used 1 r1 r2 b hb
  obtain ⟨u3, rfl, n3⟩ := readDotted_used 2 r2 r3 c hc
  obtain ⟨u4, rfl, n4⟩ := readDotted_used 3 r3 r4 d hd
  exact ⟨u1 ++ (u2 ++ (u3 ++ u4)), by simp, by simp [n1, n2, n3, n4]⟩

/-- More groups than one dotted quad makes need a separator. -/
theorem readGroups_used (room : Nat) (groups segs : List UInt16) (quad : Bool)
    (text rest : List Char) (h : readGroups room groups text = (segs, quad, rest)) :
    ∃ used, text = used ++ rest ∧
      (0 < groups.length → groups.length < segs.length → ':' ∈ used) ∧
      (groups.length = 0 → 2 < segs.length → ':' ∈ used) := by
  induction room generalizing groups text with
  | zero =>
    obtain ⟨rfl, -, rfl⟩ : groups = segs ∧ false = quad ∧ text = rest := by simpa [readGroups] using h
    exact ⟨[], rfl, fun _ h => absurd h (Nat.lt_irrefl _), fun h0 h2 => by omega⟩
  | succ room ih =>
    rw [readGroups] at h
    split at h
    · rename_i ip after hquad
      obtain ⟨rfl, -, rfl⟩ : _ = segs ∧ true = quad ∧ after = rest := by simpa using h
      split at hquad
      · obtain ⟨item, rfl, hip⟩ := readSeparator_some _ _ _ _ _ _ hquad
        obtain ⟨used, rfl, -⟩ := readIpv4Addr_used item after ip hip
        refine ⟨(if 0 < groups.length then [':'] else []) ++ used, by rw [List.append_assoc], ?_, ?_⟩
        · intro hstarted _
          simp [hstarted]
        · intro hnone hmore
          simp [hnone] at hmore
      · cases hquad
    · split at h
      · rename_i seg after hgroup
        obtain ⟨item, rfl, hitem⟩ := readSeparator_some _ _ _ _ _ _ hgroup
        obtain ⟨digits, rfl, -⟩ := readGroup_used item after seg hitem
        obtain ⟨used, rfl, hused, -⟩ := ih (groups ++ [seg]) after h
        refine ⟨(if 0 < groups.length then [':'] else []) ++ digits ++ used, by simp, ?_, ?_⟩
        · intro hstarted _
          simp [hstarted]
        · intro hnone hmore
          have := hused (by simp) (by simp only [List.length_append, List.length_singleton]; omega)
          simp [this]
      · obtain ⟨rfl, -, rfl⟩ : groups = segs ∧ false = quad ∧ text = rest := by simpa using h
        exact ⟨[], rfl, fun _ h => absurd h (Nat.lt_irrefl _), fun h0 h2 => by omega⟩

theorem readIpv6Addr_colon (text rest : List Char) (ip : Ipv6Addr)
    (h : readIpv6Addr text = some (ip, rest)) : ':' ∈ text := by
  unfold readIpv6Addr at h
  rcases hhead : readGroups 8 [] text with ⟨head, quad, after⟩
  obtain ⟨used, rfl, -, hused⟩ := readGroups_used 8 [] head quad text after hhead
  rw [hhead] at h
  dsimp only at h
  split at h
  · rename_i hlen
    exact List.mem_append_left after (hused rfl (by omega))
  · split at h
    · cases h
    · obtain ⟨after', hcolon, -⟩ := Option.bind_eq_some_iff.mp h
      cases after with
      | nil => cases hcolon
      | cons c text =>
        rw [readGivenChar] at hcolon
        split at hcolon
        · rename_i hc
          simp [hc]
        · cases hcolon

theorem parseWith_eq_some {α : Type} (inner : List Char → Option (α × List Char)) (text : List Char)
    (a : α) (h : parseWith inner text = some a) : inner text = some (a, []) := by
  unfold parseWith at h
  split at h
  · rename_i a' hinner
    rw [hinner, Option.some.inj h]
  · cases h

/-- An address is of the sixth version exactly if its text has a colon. -/
theorem IpAddr.colon_iff (s : String) (ip : IpAddr) (h : IpAddr.fromStr s = some ip) :
    ':' ∈ s.toList ↔ ∃ v6, ip = .v6 v6 := by
  have hread := parseWith_eq_some readIpAddr s.toList ip h
  unfold readIpAddr at hread
  split at hread
  · rename_i v4 rest hv4
    obtain ⟨rfl, rfl⟩ := Prod.mk.inj (Option.some.inj hread)
    obtain ⟨used, htext, hused⟩ := readIpv4Addr_used s.toList [] v4 hv4
    rw [List.append_nil] at htext
    rw [htext]
    simp [hused]
  · obtain ⟨⟨v6, rest⟩, hv6, heq⟩ := Option.map_eq_some_iff.mp hread
    obtain ⟨rfl, rfl⟩ := Prod.mk.inj heq
    simp [readIpv6Addr_colon s.toList [] v6 hv6]

/-- The text of an IPv6 address has a colon. -/
theorem Ipv6Addr.colon_of_fromStr (s : String) (ip : Ipv6Addr) (h : Ipv6Addr.fromStr s = some ip) :
    ':' ∈ s.toList :=
  readIpv6Addr_colon s.toList [] ip (parseWith_eq_some readIpv6Addr s.toList ip h)

theorem Ipv4Addr.read_of_fromStr (s : String) (ip : Ipv4Addr) (h : Ipv4Addr.fromStr s = some ip) :
    readIpv4Addr s.toList = some (ip, []) := by
  unfold fromStr at h
  split at h
  · cases h
  · exact parseWith_eq_some readIpv4Addr s.toList ip h

/-- The two parsers of the standard library agree on IPv4 texts. -/
theorem IpAddr.fromStr_of_ipv4 (s : String) (ip : Ipv4Addr) (h : Ipv4Addr.fromStr s = some ip) :
    IpAddr.fromStr s = some (.v4 ip) := by
  rw [IpAddr.fromStr, parseWith, readIpAddr, Ipv4Addr.read_of_fromStr s ip h]

theorem Ipv6Addr.fromStr_of_ipv4 (s : String) (ip : Ipv4Addr) (h : Ipv4Addr.fromStr s = some ip) :
    Ipv6Addr.fromStr s = none := by
  obtain ⟨used, htext, hused⟩ := readIpv4Addr_used s.toList [] ip (Ipv4Addr.read_of_fromStr s ip h)
  rw [List.append_nil] at htext
  cases hv6 : Ipv6Addr.fromStr s with
  | none => rfl
  | some v6 => exact absurd (colon_of_fromStr s v6 hv6) (htext ▸ hused)

/-- What begins with four octets is not read as groups: their two groups end it. -/
theorem readIpv6Addr_of_ipv4 (text rest : List Char) (ip : Ipv4Addr)
    (h : readIpv4Addr text = some (ip, rest)) : readIpv6Addr text = none := by
  have hgroups : readGroups 8 [] text =
      ([UInt16.ofNat (ofBE [ip.a, ip.b]), UInt16.ofNat (ofBE [ip.c, ip.d])], true, rest) := by
    simp [readGroups, readSeparator, h]
  simp [readIpv6Addr, hgroups]

theorem IpAddr.fromStr_of_ipv6 (s : String) (ip : Ipv6Addr) (h : Ipv6Addr.fromStr s = some ip) :
    IpAddr.fromStr s = some (.v6 ip) := by
  have hread := parseWith_eq_some readIpv6Addr s.toList ip h
  cases hv4 : readIpv4Addr s.toList with
  | none => rw [IpAddr.fromStr, parseWith, readIpAddr, hv4, hread, Option.map_some]
  | some pair =>
    rw [readIpv6Addr_of_ipv4 s.toList pair.2 pair.1 hv4] at hread
    cases hread

/-- An address is its number. -/
theorem Ipv4Addr.toU32_inj (ip ip' : Ipv4Addr) (h : ip.toU32 = ip'.toU32) : ip = ip' := by
  have hoctets : ip.octets = ip'.octets := by
    have hback := toBE_ofBE ip.octets
    rw [show ip.octets.length = ip'.octets.length from rfl] at hback
    rw [← hback, ← toBE_ofBE ip'.octets]
    exact congrArg (toBE _) h
  obtain ⟨a, b, c, d⟩ := ip
  obtain ⟨a', b', c', d'⟩ := ip'
  simpa [octets] using hoctets

end TgWsProxy.Source.Std
