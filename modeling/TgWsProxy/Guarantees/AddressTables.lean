import TgWsProxy.Guarantees.PlainTcp

/-!
# The two address tables

The static table names a data centre for single IPv4 addresses; the ranges decide
which targets are Telegram's at all, and `route_client` asks them first. A row takes
effect only if its address is in a range. All rows but one are: `95.161.76.100`
lies outside, so `ip_to_dc` knows its data centre and `route_client` passes it
through as plain TCP (`tables_agree_iff`).
-/

set_option autoImplicit false

namespace TgWsProxy.Guarantees.AddressTables
open Library Source.Std Source.Telegram Source.Ws Source.Routing PlainTcp

/-- The address of the row that no range contains. -/
def strayAddr : Ipv4Addr := ⟨95, 161, 76, 100⟩

def strayText : String := "95.161.76.100"

theorem fromStr_strayText : Ipv4Addr.fromStr strayText = some strayAddr := by
  decide +kernel

/-- No two rows are of one address, and all but one lie in a range. -/
theorem rows_checked : (ipToDcRows.map fun row => ipToU32 row.1).Nodup ∧
    ∀ row ∈ ipToDcRows, (tgIpv4Ranges.any fun r =>
      ipToU32 r.1 ≤ ipToU32 row.1 && ipToU32 row.1 ≤ ipToU32 r.2) = true ↔ row.1 ≠ strayText := by
  decide +kernel

theorem stray_mem : (strayText, strayText, 2, false) ∈ ipToDcRows := by
  simp [ipToDcRows, strayText]

/-- A row covers its own address and no other. -/
theorem range_covers_iff (row : String × String × UInt8 × Bool) (hrow : row ∈ ipToDcRows)
    (value : Nat) :
    ((range row).1 ≤ value && value ≤ (range row).2.1) = true ↔ ipToU32 row.1 = value := by
  simp only [range, (catalog_parses.1 row hrow).1, Bool.and_eq_true, decide_eq_true_eq]
  omega

theorem row_parses (row : String × String × UInt8 × Bool) (hrow : row ∈ ipToDcRows) :
    ∃ ip, Ipv4Addr.fromStr row.1 = some ip ∧ ipToU32 row.1 = ip.toU32 := by
  obtain ⟨ip, hparse⟩ := Option.isSome_iff_exists.mp (catalog_parses.1 row hrow).2
  exact ⟨ip, hparse, by rw [ipToU32, hparse, Option.map_some, Option.getD_some]⟩

/-- Every row finds its own entry: none hides another. -/
theorem ipToDc_row_self (row : String × String × UInt8 × Bool) (hrow : row ∈ ipToDcRows) :
    ipToDc row.1 = some ⟨row.2.2.1, row.2.2.2⟩ := by
  obtain ⟨ip, hparse, hvalue⟩ := row_parses row hrow
  have hfind : ((ipToDcRows.map range).find? fun r => r.1 ≤ ip.toU32 && ip.toU32 ≤ r.2.1) =
      some (range row) := by
    cases hfound : (ipToDcRows.map range).find? fun r => r.1 ≤ ip.toU32 && ip.toU32 ≤ r.2.1 with
    | none =>
      have hmissed := List.find?_eq_none.mp hfound (range row) (List.mem_map_of_mem hrow)
      exact absurd ((range_covers_iff row hrow ip.toU32).mpr hvalue) hmissed
    | some found =>
      obtain ⟨other, hother, rfl⟩ := List.mem_map.mp (List.mem_of_find?_eq_some hfound)
      have hcovered := List.find?_some hfound
      have hsame := (range_covers_iff other hother ip.toU32).mp hcovered
      rw [List.inj_on_of_nodup_map rows_checked.1 hother hrow (hsame.trans hvalue.symm)]
  unfold ipToDc
  simp only [hparse, Option.bind_eq_bind, Option.bind_some, Option.pure_def, hfind]
  rfl

theorem isTelegramIp_row_iff (row : String × String × UInt8 × Bool) (hrow : row ∈ ipToDcRows) :
    isTelegramIp row.1 = true ↔ row.1 ≠ strayText := by
  obtain ⟨ip, hparse, hvalue⟩ := row_parses row hrow
  rw [← rows_checked.2 row hrow, hvalue]
  unfold isTelegramIp
  rw [IpAddr.fromStr_of_ipv4 row.1 ip hparse]

/-- Both tables look at the address only, not at how it is written. -/
theorem isTelegramIp_congr (host text : String) (ip : Ipv4Addr)
    (hhost : Ipv4Addr.fromStr host = some ip) (htext : Ipv4Addr.fromStr text = some ip) :
    isTelegramIp host = isTelegramIp text := by
  unfold isTelegramIp
  rw [IpAddr.fromStr_of_ipv4 host ip hhost, IpAddr.fromStr_of_ipv4 text ip htext]

theorem ipToDc_congr (host text : String)
    (h : Ipv4Addr.fromStr host = Ipv4Addr.fromStr text) : ipToDc host = ipToDc text := by
  unfold ipToDc
  rw [h]

/-- An entry comes from a row that is the host's own address. -/
theorem ipToDc_row (host : String) (entry : TelegramIpEntry) (h : ipToDc host = some entry) :
    ∃ ip, Ipv4Addr.fromStr host = some ip ∧
      ∃ row ∈ ipToDcRows, Ipv4Addr.fromStr row.1 = some ip := by
  unfold ipToDc at h
  obtain ⟨ip, hparse, h⟩ := Option.bind_eq_some_iff.mp h
  obtain ⟨found, hfind, -⟩ := Option.bind_eq_some_iff.mp h
  obtain ⟨row, hrow, rfl⟩ := List.mem_map.mp (List.mem_of_find?_eq_some hfind)
  obtain ⟨own, hown, hvalue⟩ := row_parses row hrow
  have hcovered := List.find?_some hfind
  have hsame := (range_covers_iff row hrow ip.toU32).mp hcovered
  refine ⟨ip, hparse, row, hrow, ?_⟩
  rw [hown, Ipv4Addr.toU32_inj own ip (hvalue.symm.trans hsame)]

/-- A host with an entry is Telegram's, unless it is the stray address. -/
theorem isTelegramIp_of_entry (host : String) (entry : TelegramIpEntry)
    (h : ipToDc host = some entry) (elsewhere : Ipv4Addr.fromStr host ≠ some strayAddr) :
    isTelegramIp host = true := by
  obtain ⟨ip, hparse, row, hrow, hown⟩ := ipToDc_row host entry h
  rw [isTelegramIp_congr host row.1 ip hparse hown, isTelegramIp_row_iff row hrow]
  intro hstray
  rw [hstray, fromStr_strayText] at hown
  exact elsewhere (hparse.trans hown.symm)

theorem not_isTelegramIp_stray (host : String) (h : Ipv4Addr.fromStr host = some strayAddr) :
    isTelegramIp host = false := by
  rw [isTelegramIp_congr host strayText strayAddr h fromStr_strayText, ← Bool.not_eq_true,
    isTelegramIp_row_iff _ stray_mem]
  exact not_not_intro rfl

theorem ipToDc_stray (host : String) (h : Ipv4Addr.fromStr host = some strayAddr) :
    ipToDc host = some ⟨2, false⟩ := by
  rw [ipToDc_congr host strayText (h.trans fromStr_strayText.symm)]
  exact ipToDc_row_self _ stray_mem

/-! ## What a row does -/

variable (aes : Aes256)

/-- A packet whose header decrypts to zeros. -/
def blankInit : Bytes :=
  List.replicate 56 0 ++ mask (aes (List.replicate 32 0) (List.replicate 16 0)) 56 (List.replicate 8 0)

/-- Some client stream is resolved to the entry, whatever the cache has learned. -/
def TakesEffect (host : String) (entry : TelegramIpEntry) : Prop :=
  ∃ session rest packet, session.targetHost = host ∧
    openSession session true = .ok (rest, packet) ∧
    ∀ cache, resolveTelegramInit aes cache rest.targetHost packet =
        ⟨patchInitDc aes packet (signedDc entry), ⟨some entry.dc, entry.isMedia⟩, true⟩ ∧
      selectRoute rest (resolveTelegramInit aes cache rest.targetHost packet) =
        .ok (entry.dc, entry.isMedia)

/-- A host with a static data centre is Telegram's, is never connected to in plain TCP,
and its entry can take effect. -/
def TablesAgree (host : String) : Prop :=
  ∀ entry, ipToDc host = some entry →
    isTelegramIp host = true ∧
    (∀ session timely cache table now connect, session.targetHost = host →
      ∀ target port prelude client,
        routeClient aes session timely cache table now connect ≠ .tcp target port prelude client) ∧
    TakesEffect aes host entry

theorem blankInit_length : (blankInit aes).length = 64 := by
  simp [blankInit]

theorem blankInit_extractDc : extractDc aes (blankInit aes) = ⟨none, false⟩ := by
  have hlen := blankInit_length aes
  have hkey : (blankInit aes).extract 8 40 = List.replicate 32 0 := by simp [blankInit]
  have hiv : (blankInit aes).extract 40 56 = List.replicate 16 0 := by simp [blankInit]
  have hbody : (blankInit aes).extract 56 64 =
      mask (aes (List.replicate 32 0) (List.replicate 16 0)) 56 (List.replicate 8 0) := by
    simp [blankInit]
  apply extractDc_of_untagged aes _ (by omega)
  rw [initHeader, hkey, hiv, hbody, mask_mask]
  decide

/-- A packet that starts with a zero octet is no HTTP request, patched or not. -/
theorem blankInit_not_http (dc : Int16) :
    isHttpTransport (patchInitDc aes (blankInit aes) dc) = false := by
  rw [isHttpTransport_patchInitDc aes _ dc (Nat.le_of_eq (blankInit_length aes).symm)]
  rfl

theorem takesEffect (host : String) (entry : TelegramIpEntry) (h : ipToDc host = some entry)
    (telegram : isTelegramIp host = true) : TakesEffect aes host entry := by
  obtain ⟨ip, hparse, -⟩ := ipToDc_row host entry h
  have hlen := blankInit_length aes
  refine ⟨⟨host, 443, blankInit aes⟩, ⟨host, 443, []⟩, blankInit aes, rfl, ?_, ?_⟩
  · unfold openSession
    simp only [telegram, Bool.not_true, Bool.false_eq_true, if_false]
    rw [if_neg (by omega), List.drop_eq_nil_of_le (by omega), List.take_of_length_le (by omega)]
  · intro cache
    have hresolved : resolveTelegramInit aes cache host (blankInit aes) =
        ⟨patchInitDc aes (blankInit aes) (signedDc entry), ⟨some entry.dc, entry.isMedia⟩, true⟩ := by
      unfold resolveTelegramInit Ipv6Cache.learnedIpv6Entry
      simp only [blankInit_extractDc, Option.isNone_none, if_true, Ipv6Addr.fromStr_of_ipv4 host ip hparse,
        Option.bind_eq_bind, Option.bind_none, Option.none_or, h]
    refine ⟨hresolved, ?_⟩
    dsimp only
    rw [hresolved]
    unfold selectRoute
    simp only [blankInit_not_http, Bool.false_eq_true, if_false]

theorem isTelegramIp_of_takesEffect (host : String) (entry : TelegramIpEntry)
    (h : TakesEffect aes host entry) : isTelegramIp host = true := by
  obtain ⟨session, rest, packet, rfl, hopen, -⟩ := h
  exact (openSession_eq_ok session rest true packet hopen).1

theorem takesEffect_row_iff (row : String × String × UInt8 × Bool) (hrow : row ∈ ipToDcRows) :
    TakesEffect aes row.1 ⟨row.2.2.1, row.2.2.2⟩ ↔ row.1 ≠ strayText := by
  rw [← isTelegramIp_row_iff row hrow]
  exact ⟨isTelegramIp_of_takesEffect aes row.1 _,
    takesEffect aes row.1 _ (ipToDc_row_self row hrow)⟩

/-- The tables agree on every host text but those that parse to the stray address. Every
row of the static table is a Telegram address and its own entry takes effect, but for
that address's row. -/
theorem tables_agree_iff (host : String) :
    (TablesAgree aes host ↔ Ipv4Addr.fromStr host ≠ some ⟨95, 161, 76, 100⟩) ∧
      ∀ row ∈ ipToDcRows, (isTelegramIp row.1 = true ↔ row.1 ≠ "95.161.76.100") ∧
        (TakesEffect aes row.1 ⟨row.2.2.1, row.2.2.2⟩ ↔ row.1 ≠ "95.161.76.100") := by
  refine ⟨?_, fun row hrow => ⟨isTelegramIp_row_iff row hrow, takesEffect_row_iff aes row hrow⟩⟩
  constructor
  · intro agree hstray
    have htelegram := (agree ⟨2, false⟩ (ipToDc_stray host hstray)).1
    rw [not_isTelegramIp_stray host hstray] at htelegram
    cases htelegram
  · intro elsewhere entry hentry
    have htelegram := isTelegramIp_of_entry host entry hentry elsewhere
    refine ⟨htelegram, ?_, takesEffect aes host entry hentry htelegram⟩
    intro session timely cache table now connect rfl target port prelude client htcp
    obtain ⟨-, -, hcase⟩ := (routeClient_eq_tcp_iff aes session timely cache table now connect target
      port prelude client).mp htcp
    rcases hcase with ⟨hother, -, -⟩ | ⟨hunknown, -, -⟩
    · rw [htelegram] at hother
      cases hother
    · obtain ⟨ip, hparse, -⟩ := ipToDc_row session.targetHost entry hentry
      obtain ⟨v6, hv6⟩ := hunknown.ipv6
      rw [IpAddr.fromStr_of_ipv4 session.targetHost ip hparse] at hv6
      cases hv6

/-- The row of the stray address is dead: a session to it goes out as plain TCP. -/
theorem stray_address_bypasses :
    ipToDc "95.161.76.100" = some ⟨2, false⟩ ∧ isTelegramIp "95.161.76.100" = false ∧
      routeClient sampleAes ⟨"95.161.76.100", 443, sampleInit [0xEF, 0xEF, 0xEF, 0xEF]⟩ true .empty
          .empty 0 (fun _ => none) =
        .tcp "95.161.76.100" 443 [] (sampleInit [0xEF, 0xEF, 0xEF, 0xEF]) := by
  have hother := not_isTelegramIp_stray "95.161.76.100" fromStr_strayText
  refine ⟨ipToDc_stray "95.161.76.100" fromStr_strayText, hother, ?_⟩
  exact (routeClient_eq_tcp_iff sampleAes _ true .empty .empty 0 (fun _ => none) _ _ _ _).mpr
    ⟨rfl, rfl, .inl ⟨hother, rfl, rfl⟩⟩

end TgWsProxy.Guarantees.AddressTables
