import TgWsProxy.Source.Std.Utf8Text
import TgWsProxy.Source.Ws.Handshake

/-!
# Heads of upgrade responses

A well-formed head is a status line, header lines `name:value` and a blank line, each
ended by CR and LF and with neither inside. The reading loop stops behind such a head
and nowhere in it (`readHandshakeHeaders_head`), and the scan takes its lines as they
were written: the status from the first, one slot from each of the others
(`parseHandshakeResponse_head`).
-/

set_option autoImplicit false

namespace TgWsProxy.Source.Ws
open Library Library.Io Source.Std

/-- A text without line breaks. -/
def OneLine (text : String) : Prop := '\r' ∉ text.toList ∧ '\n' ∉ text.toList

instance (text : String) : Decidable (OneLine text) := inferInstanceAs (Decidable (_ ∧ _))

structure HeaderLine where
  name : String
  value : String
  noColon : ':' ∉ name.toList
  nameOneLine : OneLine name
  valueOneLine : OneLine value

namespace HeaderLine

def text (line : HeaderLine) : String := line.name ++ ":" ++ line.value

def encode (line : HeaderLine) : Bytes := utf8 line.text ++ [13, 10]

/-- The value that goes into a slot. -/
def trimmed (line : HeaderLine) : String := String.ofList (trim line.value.toList)

end HeaderLine

def responseHead (statusLine : String) (lines : List HeaderLine) : Bytes :=
  utf8 statusLine ++ [13, 10] ++ lines.flatMap HeaderLine.encode ++ [13, 10]

theorem HeaderLine.toList_text (line : HeaderLine) :
    line.text.toList = line.name.toList ++ ':' :: line.value.toList := by
  simp [text]

theorem HeaderLine.text_oneLine (line : HeaderLine) : OneLine line.text := by
  have hname := line.nameOneLine
  have hvalue := line.valueOneLine
  unfold OneLine at hname hvalue ⊢
  rw [toList_text]
  simp [hname, hvalue]

theorem oneLine_octets (text : String) (h : OneLine text) : 13 ∉ utf8 text ∧ 10 ∉ utf8 text := by
  constructor
  · intro hmem
    exact h.1 (mem_utf8_of_ascii text 13 (by decide) hmem)
  · intro hmem
    exact h.2 (mem_utf8_of_ascii text 10 (by decide) hmem)

theorem HeaderLine.utf8_text_ne_nil (line : HeaderLine) : utf8 line.text ≠ [] := by
  unfold text
  rw [utf8_append, utf8_append]
  have hcolon : utf8 ":" = [58] := by decide
  simp [hcolon]

/-! ## Reading -/

theorem readHeadersWithin_octet (room : Nat) (header rest out : Bytes) (b : UInt8) :
    (readHeadersWithin (room + 1) header).run ⟨b :: rest, out⟩ =
      if headEnd.isSuffixOf (header ++ [b]) then (.ok (header ++ [b]), ⟨rest, out⟩)
      else (readHeadersWithin room (header ++ [b])).run ⟨rest, out⟩ := by
  rw [readHeadersWithin, bind_of_ok (readOctet_cons b rest out)]
  dsimp only
  split <;> rfl

/-- Only an LF can complete the blank line. -/
theorem not_headEnd_of_octet (header : Bytes) (b : UInt8) (other : b ≠ 10) :
    headEnd.isSuffixOf (header ++ [b]) = false := by
  rw [Bool.eq_false_iff, ne_eq, List.isSuffixOf_iff_suffix]
  intro ⟨front, heq⟩
  have hlast := congrArg List.getLast? heq
  simp [headEnd] at hlast
  exact other hlast.symm

/-- Octets among which the blank line does not end are read over. -/
theorem readHeadersWithin_over (room : Nat) (header octets rest out : Bytes)
    (goesOn : ∀ front, front <+: octets → front ≠ [] → ¬ headEnd <:+ header ++ front) :
    (readHeadersWithin (room + octets.length) header).run ⟨octets ++ rest, out⟩ =
      (readHeadersWithin room (header ++ octets)).run ⟨rest, out⟩ := by
  induction octets generalizing header with
  | nil => simp
  | cons b octets ih =>
    have hroom : room + (b :: octets).length = (room + octets.length) + 1 := by
      simp only [List.length_cons]
      omega
    have hfirst : headEnd.isSuffixOf (header ++ [b]) = false := by
      rw [Bool.eq_false_iff, ne_eq, List.isSuffixOf_iff_suffix]
      exact goesOn [b] ⟨octets, rfl⟩ (by simp)
    have hlater : ∀ front, front <+: octets → front ≠ [] → ¬ headEnd <:+ header ++ [b] ++ front := by
      intro front hfront _
      rw [List.append_assoc]
      exact goesOn (b :: front) ((List.prefix_cons_inj b).mpr hfront) (by simp)
    rw [hroom, List.cons_append, readHeadersWithin_octet, hfirst]
    simp only [Bool.false_eq_true, if_false]
    rw [ih (header ++ [b]) hlater, List.append_assoc, List.singleton_append]

theorem readHeadersWithin_octets (room : Nat) (header octets rest out : Bytes) (noLf : 10 ∉ octets) :
    (readHeadersWithin (room + octets.length) header).run ⟨octets ++ rest, out⟩ =
      (readHeadersWithin room (header ++ octets)).run ⟨rest, out⟩ := by
  apply readHeadersWithin_over
  intro front hfront hne hsuffix
  obtain ⟨before, last, rfl⟩ := List.eq_nil_or_concat front |>.resolve_left hne
  have hlast : last ≠ 10 := by
    rintro rfl
    exact noLf (hfront.subset (by simp))
  have hopen := not_headEnd_of_octet (header ++ before) last hlast
  rw [Bool.eq_false_iff, ne_eq, List.isSuffixOf_iff_suffix] at hopen
  apply hopen
  rwa [List.append_assoc, ← List.concat_eq_append]

/-- A line that is not blank, or is the first, does not end the head. -/
theorem readHeadersWithin_line (room : Nat) (header line rest out : Bytes) (noLf : 10 ∉ line)
    (goes : line ≠ [] ∨ header = []) :
    (readHeadersWithin (room + (line.length + 2)) header).run ⟨line ++ (13 :: 10 :: rest), out⟩ =
      (readHeadersWithin room (header ++ (line ++ [13, 10]))).run ⟨rest, out⟩ := by
  have hcr : 10 ∉ line ++ [13] := by simp [noLf]
  have hroom : room + (line.length + 2) = (room + 1) + (line ++ [13]).length := by
    simp only [List.length_append, List.length_cons, List.length_nil]
    omega
  have hsplit : line ++ (13 :: 10 :: rest) = (line ++ [13]) ++ (10 :: rest) := by simp
  have hopen : headEnd.isSuffixOf (header ++ (line ++ [13]) ++ [10]) = false := by
    rw [Bool.eq_false_iff, ne_eq, List.isSuffixOf_iff_suffix]
    intro ⟨front, heq⟩
    have hfront : front ++ [13, 10] = header ++ line := by
      have h : (front ++ [13, 10]) ++ [13, 10] = (header ++ line) ++ [13, 10] := by
        simpa [headEnd] using heq
      exact List.append_cancel_right h
    rcases goes with hline | rfl
    · obtain ⟨body, last, rfl⟩ := List.eq_nil_or_concat line |>.resolve_left hline
      have hlast := congrArg List.getLast? hfront
      simp at hlast
      simp [← hlast] at noLf
    · have hmem : (10 : UInt8) ∈ line := by
        rw [List.nil_append] at hfront
        rw [← hfront]
        simp
      exact noLf hmem
  rw [hroom, hsplit, readHeadersWithin_octets (room + 1) header (line ++ [13]) _ out hcr,
    readHeadersWithin_octet, hopen]
  simp

theorem readHeadersWithin_lines (lines : List HeaderLine) (room : Nat) (header rest out : Bytes) :
    (readHeadersWithin (room + (lines.flatMap HeaderLine.encode).length) header).run
        ⟨lines.flatMap HeaderLine.encode ++ rest, out⟩ =
      (readHeadersWithin room (header ++ lines.flatMap HeaderLine.encode)).run ⟨rest, out⟩ := by
  induction lines generalizing room header with
  | nil => simp
  | cons line lines ih =>
    have hroom : room + ((line :: lines).flatMap HeaderLine.encode).length =
        (room + (lines.flatMap HeaderLine.encode).length) + ((utf8 line.text).length + 2) := by
      simp only [List.flatMap_cons, List.length_append, HeaderLine.encode, List.length_cons, List.length_nil]
      omega
    have hoctets : (line :: lines).flatMap HeaderLine.encode ++ rest =
        utf8 line.text ++ (13 :: 10 :: (lines.flatMap HeaderLine.encode ++ rest)) := by
      simp [HeaderLine.encode]
    rw [hroom, hoctets, readHeadersWithin_line _ header _ _ out
      (oneLine_octets line.text line.text_oneLine).2 (.inl line.utf8_text_ne_nil), ih room]
    simp [HeaderLine.encode]

/-- The loop reads a head that fits, and nothing behind it. -/
theorem readHandshakeHeaders_head (statusLine : String) (lines : List HeaderLine) (rest out : Bytes)
    (oneLine : OneLine statusLine)
    (fits : (responseHead statusLine lines).length ≤ maxHandshakeHeaderSize) :
    readHandshakeHeaders.run ⟨responseHead statusLine lines ++ rest, out⟩ =
      (.ok (responseHead statusLine lines), ⟨rest, out⟩) := by
  obtain ⟨spare, hspare⟩ := Nat.exists_eq_add_of_le fits
  have hend : ∃ front, utf8 statusLine ++ [13, 10] ++ lines.flatMap HeaderLine.encode =
      front ++ [13, 10] := by
    rcases List.eq_nil_or_concat lines with rfl | ⟨before, last, rfl⟩
    · exact ⟨utf8 statusLine, by simp⟩
    · exact ⟨utf8 statusLine ++ [13, 10] ++ before.flatMap HeaderLine.encode ++ utf8 last.text, by
        simp [HeaderLine.encode]⟩
  obtain ⟨front, hfront⟩ := hend
  have hroom : maxHandshakeHeaderSize =
      ((spare + 2) + (lines.flatMap HeaderLine.encode).length) + ((utf8 statusLine).length + 2) := by
    rw [hspare]
    simp only [responseHead, List.length_append, List.length_cons, List.length_nil]
    omega
  have hoctets : responseHead statusLine lines ++ rest =
      utf8 statusLine ++ (13 :: 10 :: (lines.flatMap HeaderLine.encode ++ (13 :: 10 :: rest))) := by
    simp [responseHead]
  have hopen : headEnd.isSuffixOf (front ++ [13, 10] ++ [13]) = false :=
    not_headEnd_of_octet _ 13 (by decide)
  have hshut : headEnd.isSuffixOf (front ++ [13, 10] ++ [13] ++ [10]) = true := by
    rw [List.isSuffixOf_iff_suffix]
    exact ⟨front, by simp [headEnd]⟩
  rw [readHandshakeHeaders, hroom, hoctets, readHeadersWithin_line _ [] _ _ out
    (oneLine_octets statusLine oneLine).2 (.inr rfl), List.nil_append, readHeadersWithin_lines, hfront,
    readHeadersWithin_octet, hopen]
  simp only [Bool.false_eq_true, if_false]
  rw [readHeadersWithin_octet, hshut, responseHead, hfront]
  simp

/-! ## Scanning -/

/-- The status that a status line announces. -/
def announcedStatus (statusLine : String) : Except WsError UInt16 :=
  match (splitWhitespace statusLine.toList)[1]? with
  | none => .error (.handshake "bad response")
  | some status =>
    match parseU16 status with
    | none => .error (.handshake "bad status")
    | some status => .ok status

/-- What the scan makes of header lines: each overwrites its slot. -/
def scanLines (lines : List HeaderLine) (response : WsHandshakeResponse) : WsHandshakeResponse :=
  lines.foldl (fun response line => response.setHeader line.name.toList line.trimmed) response

theorem utf8_snoc_cr (text : String) : utf8 text ++ [13] = utf8 (text ++ "\r") := by
  have hcr : utf8 "\r" = [13] := by decide
  rw [utf8_append, hcr]

/-- White space at its end does not give a text another part. -/
theorem splitWhitespace_snoc (text : List Char) (c : Char) (space : isWhitespace c = true) :
    splitWhitespace (text ++ [c]) = splitWhitespace text := by
  unfold splitWhitespace
  rw [List.splitOnP_append_cons text [] space, List.splitOnP_nil, List.filter_append]
  simp

theorem parseStatus_line (statusLine : String) :
    parseStatus (utf8 statusLine ++ [13]) = announcedStatus statusLine := by
  have hparts : splitWhitespace (fromUtf8Lossy (utf8 statusLine ++ [13])).toList =
      splitWhitespace statusLine.toList := by
    rw [utf8_snoc_cr, fromUtf8Lossy_utf8, String.toList_append]
    exact splitWhitespace_snoc statusLine.toList '\r' rfl
  cases htoken : (splitWhitespace statusLine.toList)[1]? with
  | none => simp only [parseStatus, announcedStatus, hparts, htoken]
  | some token =>
    cases hstatus : parseU16 token with
    | none => simp only [parseStatus, announcedStatus, hparts, htoken, hstatus]
    | some status => simp only [parseStatus, announcedStatus, hparts, htoken, hstatus]

theorem headerText_line (line : HeaderLine) :
    headerText (utf8 line.text ++ [13]) = line.text.toList := by
  have hline := line.text_oneLine.1
  have hdecode : fromUtf8 (utf8 line.text ++ [13]) = some (line.text ++ "\r") :=
    (fromUtf8_eq_some_iff _ _).mpr (utf8_snoc_cr line.text)
  unfold headerText trimEnd
  rw [hdecode, Option.getD_some, String.toList_append, show "\r".toList = ['\r'] from rfl,
    List.reverse_append, List.reverse_singleton, List.singleton_append, List.dropWhile_cons_of_pos rfl]
  have hkeep : line.text.toList.reverse.dropWhile (fun c => c == '\r') = line.text.toList.reverse := by
    cases hrev : line.text.toList.reverse with
    | nil => rfl
    | cons c rest =>
      have hmem : c ∈ line.text.toList := List.mem_reverse.mp (hrev ▸ List.mem_cons_self)
      have hother : (c == '\r') = false := by
        rw [beq_eq_false_iff_ne]
        rintro rfl
        exact hline hmem
      rw [List.dropWhile_cons_of_neg (by simp [hother])]
  rw [hkeep, List.reverse_reverse]

theorem parseHeaderLines_lines (lines : List HeaderLine) (response : WsHandshakeResponse) :
    parseHeaderLines (lines.map (fun line => utf8 line.text ++ [13]) ++ [[13], []]) response =
      .ok (scanLines lines response) := by
  induction lines generalizing response with
  | nil => rfl
  | cons line lines ih =>
    have hne := line.utf8_text_ne_nil
    have hgoes : ¬ (utf8 line.text ++ [13] = [13] ∨ utf8 line.text ++ [13] = []) := by
      simp [hne]
    rw [List.map_cons, List.cons_append, parseHeaderLines, if_neg hgoes, headerText_line,
      HeaderLine.toList_text, (splitOnce_eq_some_iff ':' _ _ _).mpr ⟨rfl, line.noColon⟩]
    exact ih _

theorem splitOn_head (statusLine : String) (lines : List HeaderLine) (oneLine : OneLine statusLine) :
    (responseHead statusLine lines).splitOn 10 =
      (utf8 statusLine ++ [13]) ::
        (lines.map (fun line => utf8 line.text ++ [13]) ++ [[13], []]) := by
  have hlines : ∀ lines : List HeaderLine, (lines.flatMap HeaderLine.encode ++ [13, 10]).splitOn 10 =
      lines.map (fun line => utf8 line.text ++ [13]) ++ [[13], []] := by
    intro lines
    induction lines with
    | nil => rfl
    | cons line lines ih =>
      have hclean : 10 ∉ utf8 line.text ++ [13] := by
        simp [(oneLine_octets line.text line.text_oneLine).2]
      have hoctets : (line :: lines).flatMap HeaderLine.encode ++ [13, 10] =
          (utf8 line.text ++ [13]) ++ 10 :: (lines.flatMap HeaderLine.encode ++ [13, 10]) := by
        simp [HeaderLine.encode]
      rw [hoctets, List.splitOn_append_cons_self_of_not_mem hclean, ih]
      rfl
  have hclean : 10 ∉ utf8 statusLine ++ [13] := by
    simp [(oneLine_octets statusLine oneLine).2]
  have hoctets : responseHead statusLine lines =
      (utf8 statusLine ++ [13]) ++ 10 :: (lines.flatMap HeaderLine.encode ++ [13, 10]) := by
    simp [responseHead]
  rw [hoctets, List.splitOn_append_cons_self_of_not_mem hclean, hlines lines]

/-- The scan of a head: the announced status, and the slots of its lines. -/
theorem parseHandshakeResponse_head (statusLine : String) (lines : List HeaderLine)
    (oneLine : OneLine statusLine) :
    parseHandshakeResponse (responseHead statusLine lines) =
      (announcedStatus statusLine).map fun status =>
        scanLines lines ⟨status, none, none, none, none, none⟩ := by
  unfold parseHandshakeResponse
  rw [splitOn_head statusLine lines oneLine]
  dsimp only [List.headD_cons, List.tail_cons]
  rw [parseStatus_line]
  cases announcedStatus statusLine with
  | error err => rfl
  | ok status => exact parseHeaderLines_lines lines _

/-! ## The handshake -/

/-- A handshake that returns has sent its request and read a head; nothing is read behind it. -/
theorem performHandshake_ok (sha1 : Bytes → Bytes) (base64 : Bytes → String) (domain : String)
    (random : Except String Bytes) (s t : Duplex) (hs : WsHandshake)
    (h : (performHandshake sha1 base64 domain random).run s = (.ok hs, t)) :
    ∃ request header, buildHandshakeRequest sha1 base64 domain random = .ok request ∧
      readHandshakeHeaders.run ⟨s.input, s.output ++ utf8 request.payload⟩ = (.ok header, t) := by
  unfold performHandshake at h
  obtain ⟨request, r1, hrequest, hsend⟩ := bind_ok_iff.mp h
  obtain ⟨u, r2, hwrite, hreceive⟩ := bind_ok_iff.mp hsend
  obtain ⟨header, r3, hread, hscan⟩ := bind_ok_iff.mp hreceive
  obtain ⟨response, r4, hparse, hjudge⟩ := bind_ok_iff.mp hscan
  rw [ofExcept_run, Prod.mk.injEq] at hrequest hparse
  obtain ⟨hrequest, rfl⟩ := hrequest
  obtain ⟨-, rfl⟩ := hparse
  obtain rfl := writeAll_ok_iff.mp hwrite
  refine ⟨request, header, hrequest, ?_⟩
  dsimp only at hjudge
  split at hjudge
  · obtain ⟨u, r5, hvalid, hdone⟩ := bind_ok_iff.mp hjudge
    rw [ofExcept_run, Prod.mk.injEq] at hvalid
    obtain ⟨-, rfl⟩ := hvalid
    rw [hread, (pure_ok_iff.mp hdone).2]
  · rw [hread, (pure_ok_iff.mp hjudge).2]

end TgWsProxy.Source.Ws
