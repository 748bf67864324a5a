import TgWsProxy.Source.Ws.ResponseHead

/-!
# Where the response head ends

The loop that reads the head takes one octet at a time and looks for the blank line in
what it has. On every stream it ends in one of three ways: the first blank line ends
within the limit, and the loop stops right behind it; there are `8192` octets and none of
their prefixes ends in a blank line; or the stream ends before either.
-/

set_option autoImplicit false

namespace TgWsProxy.Guarantees.HandshakeHead
open Library Library.Io Source.Ws

/-- `head` is the stream up to the end of its first blank line. -/
structure FirstBlankLine (stream head : Bytes) : Prop where
  here : head <+: stream
  ends : headEnd <:+ head
  first : ∀ front, front <+: stream → headEnd <:+ front → head.length ≤ front.length

/-- No blank line ends among the first `limit` octets. -/
def NoBlankLine (limit : Nat) (stream : Bytes) : Prop :=
  ∀ front, front <+: stream → front.length ≤ limit → ¬ headEnd <:+ front

/-- A stream in which a blank line ends has a first one. -/
theorem exists_firstBlankLine (stream front : Bytes) (here : front <+: stream)
    (ends : headEnd <:+ front) :
    ∃ head, FirstBlankLine stream head ∧ head.length ≤ front.length := by
  have hsome : ∃ n, headEnd <:+ stream.take n :=
    ⟨front.length, by rwa [← List.prefix_iff_eq_take.mp here]⟩
  have hleast : ∀ other, other <+: stream → headEnd <:+ other →
      Nat.find hsome ≤ other.length := by
    intro other hother hends
    exact Nat.find_min' hsome (by rwa [← List.prefix_iff_eq_take.mp hother])
  have hlength : (stream.take (Nat.find hsome)).length = Nat.find hsome := by
    have hle := hleast front here ends
    have hfront := here.length_le
    rw [List.length_take]
    omega
  refine ⟨stream.take (Nat.find hsome), ⟨List.take_prefix _ _, Nat.find_spec hsome, ?_⟩, ?_⟩
  · intro other hother hends
    rw [hlength]
    exact hleast other hother hends
  · rw [hlength]
    exact hleast front here ends

/-! ## The three ends of the loop -/

theorem readHandshakeHeaders_found (head rest out : Bytes) (fits : head.length ≤ 8192)
    (first : FirstBlankLine (head ++ rest) head) :
    readHandshakeHeaders.run ⟨head ++ rest, out⟩ = (.ok head, ⟨rest, out⟩) := by
  have hne : head ≠ [] := by
    rintro rfl
    exact absurd first.ends (by decide)
  obtain ⟨before, last, rfl⟩ := (List.eq_nil_or_concat head).resolve_left hne
  rw [List.concat_eq_append] at fits first ⊢
  have hopen : ∀ front, front <+: before → front ≠ [] → ¬ headEnd <:+ [] ++ front := by
    intro front hfront _ hends
    have hlen := first.first front (hfront.trans (by simp)) hends
    have hle := hfront.length_le
    simp only [List.length_append, List.length_cons, List.length_nil] at hlen
    omega
  have hroom : maxHandshakeHeaderSize = (8192 - before.length - 1 + 1) + before.length := by
    simp only [List.length_append, List.length_cons, List.length_nil] at fits
    unfold maxHandshakeHeaderSize
    omega
  have hend : headEnd.isSuffixOf (before ++ [last]) = true := List.isSuffixOf_iff_suffix.mpr first.ends
  rw [readHandshakeHeaders, hroom, List.append_assoc, readHeadersWithin_over _ _ _ _ _ hopen,
    List.singleton_append, readHeadersWithin_octet, List.nil_append, hend]
  rfl

theorem readHandshakeHeaders_oversized (stream out : Bytes) (long : 8192 ≤ stream.length)
    (blankless : NoBlankLine 8192 stream) :
    readHandshakeHeaders.run ⟨stream, out⟩ =
      (.error (.handshake "oversized_handshake_headers"), ⟨stream.drop 8192, out⟩) := by
  have hlength : (stream.take 8192).length = 8192 := by
    rw [List.length_take]
    omega
  have hopen : ∀ front, front <+: stream.take 8192 → front ≠ [] → ¬ headEnd <:+ [] ++ front := by
    intro front hfront _
    have hle := hfront.length_le
    exact blankless front (hfront.trans (List.take_prefix _ _)) (by omega)
  have hend : headEnd.isSuffixOf ([] ++ stream.take 8192) = false := by
    rw [Bool.eq_false_iff, ne_eq, List.isSuffixOf_iff_suffix, List.nil_append]
    exact blankless _ (List.take_prefix _ _) (by omega)
  have hrun := readHeadersWithin_over 0 [] (stream.take 8192) (stream.drop 8192) out hopen
  rw [hlength, List.take_append_drop, readHeadersWithin, hend] at hrun
  exact hrun

theorem readHandshakeHeaders_closed (stream out : Bytes) (short : stream.length < 8192)
    (blankless : NoBlankLine 8192 stream) :
    readHandshakeHeaders.run ⟨stream, out⟩ =
      (.error (.handshake "connection closed"), ⟨[], out⟩) := by
  have hopen : ∀ front, front <+: stream → front ≠ [] → ¬ headEnd <:+ [] ++ front := by
    intro front hfront _
    have hle := hfront.length_le
    exact blankless front hfront (by omega)
  have hroom : maxHandshakeHeaderSize = (8192 - stream.length - 1 + 1) + stream.length := by
    unfold maxHandshakeHeaderSize
    omega
  have hrun := readHeadersWithin_over (8192 - stream.length - 1 + 1) [] stream [] out hopen
  rw [List.append_nil] at hrun
  rw [readHandshakeHeaders, hroom, hrun]
  rfl

/-- Every stream is of one of the three kinds. -/
theorem stream_cases (stream : Bytes) :
    (∃ head, FirstBlankLine stream head ∧ head.length ≤ 8192) ∨
      (8192 ≤ stream.length ∧ NoBlankLine 8192 stream) ∨
      (stream.length < 8192 ∧ NoBlankLine 8192 stream) := by
  by_cases h : ∃ front, front <+: stream ∧ front.length ≤ 8192 ∧ headEnd <:+ front
  · obtain ⟨front, here, fits, ends⟩ := h
    obtain ⟨head, hfirst, hle⟩ := exists_firstBlankLine stream front here ends
    exact .inl ⟨head, hfirst, by omega⟩
  · have hnone : NoBlankLine 8192 stream := fun front here fits ends => h ⟨front, here, fits, ends⟩
    rcases Nat.lt_or_ge stream.length 8192 with hshort | hlong
    · exact .inr (.inr ⟨hshort, hnone⟩)
    · exact .inr (.inl ⟨hlong, hnone⟩)

theorem noBlankLine_of_short (stream : Bytes) (short : stream.length < 8192) :
    NoBlankLine 8192 stream ↔ NoBlankLine stream.length stream := by
  constructor
  · intro h front here _
    have hle := here.length_le
    exact h front here (by omega)
  · exact fun h front here _ => h front here here.length_le

theorem readHandshakeHeaders_ok_iff (stream out head : Bytes) (t : Duplex) :
    readHandshakeHeaders.run ⟨stream, out⟩ = (.ok head, t) ↔
      FirstBlankLine stream head ∧ head.length ≤ 8192 ∧ stream = head ++ t.input ∧
        t.output = out := by
  constructor
  · intro h
    rcases stream_cases stream with ⟨found, hfirst, hfits⟩ | ⟨hlong, hnone⟩ | ⟨hshort, hnone⟩
    · obtain ⟨rest, rfl⟩ := hfirst.here
      rw [readHandshakeHeaders_found found rest out hfits hfirst] at h
      obtain ⟨hhead, rfl⟩ := Prod.mk.inj h
      obtain rfl := Except.ok.inj hhead
      exact ⟨hfirst, hfits, rfl, rfl⟩
    · rw [readHandshakeHeaders_oversized stream out hlong hnone] at h
      cases (Prod.mk.inj h).1
    · rw [readHandshakeHeaders_closed stream out hshort hnone] at h
      cases (Prod.mk.inj h).1
  · intro ⟨hfirst, hfits, hstream, hout⟩
    obtain ⟨rest, output⟩ := t
    dsimp only at hstream hout
    subst hstream hout
    exact readHandshakeHeaders_found head rest output hfits hfirst

theorem readHandshakeHeaders_oversized_iff (stream out : Bytes) :
    (∃ t, readHandshakeHeaders.run ⟨stream, out⟩ =
        (.error (.handshake "oversized_handshake_headers"), t)) ↔
      8192 ≤ stream.length ∧ NoBlankLine 8192 stream := by
  constructor
  · intro ⟨t, h⟩
    rcases stream_cases stream with ⟨found, hfirst, hfits⟩ | hover | ⟨hshort, hnone⟩
    · obtain ⟨rest, rfl⟩ := hfirst.here
      rw [readHandshakeHeaders_found found rest out hfits hfirst] at h
      cases (Prod.mk.inj h).1
    · exact hover
    · rw [readHandshakeHeaders_closed stream out hshort hnone] at h
      simp at h
  · intro ⟨hlong, hnone⟩
    exact ⟨_, readHandshakeHeaders_oversized stream out hlong hnone⟩

theorem readHandshakeHeaders_closed_iff (stream out : Bytes) :
    (∃ t, readHandshakeHeaders.run ⟨stream, out⟩ = (.error (.handshake "connection closed"), t)) ↔
      stream.length < 8192 ∧ NoBlankLine stream.length stream := by
  constructor
  · intro ⟨t, h⟩
    rcases stream_cases stream with ⟨found, hfirst, hfits⟩ | ⟨hlong, hnone⟩ | ⟨hshort, hnone⟩
    · obtain ⟨rest, rfl⟩ := hfirst.here
      rw [readHandshakeHeaders_found found rest out hfits hfirst] at h
      cases (Prod.mk.inj h).1
    · rw [readHandshakeHeaders_oversized stream out hlong hnone] at h
      simp at h
    · exact ⟨hshort, (noBlankLine_of_short stream hshort).mp hnone⟩
  · intro ⟨hshort, hnone⟩
    have hnone' := (noBlankLine_of_short stream hshort).mpr hnone
    exact ⟨_, readHandshakeHeaders_closed stream out hshort hnone'⟩

/-- On every stream the loop returns the octets up to its first blank line if that ends
within the limit, having used up these alone; it fails for size if there are `8192` octets
and no blank line among them, and for the close if there are fewer and none. What is read
next is the frame behind the head, also after a whole handshake. -/
theorem readHandshakeHeaders_exact (stream out : Bytes) :
    (∀ head t, readHandshakeHeaders.run ⟨stream, out⟩ = (.ok head, t) ↔
      FirstBlankLine stream head ∧ head.length ≤ 8192 ∧ stream = head ++ t.input ∧
        t.output = out) ∧
    ((∃ t, readHandshakeHeaders.run ⟨stream, out⟩ =
        (.error (.handshake "oversized_handshake_headers"), t)) ↔
      8192 ≤ stream.length ∧ NoBlankLine 8192 stream) ∧
    ((∃ t, readHandshakeHeaders.run ⟨stream, out⟩ = (.error (.handshake "connection closed"), t)) ↔
      stream.length < 8192 ∧ NoBlankLine stream.length stream) ∧
    (∀ head t, readHandshakeHeaders.run ⟨stream, out⟩ = (.ok head, t) →
      ∀ (f : WireFrame) (rest : Bytes), stream = head ++ (f.encode ++ rest) →
        readFrame.run t = (.ok (some f.frame), ⟨rest, out⟩)) ∧
    (∀ (sha1 : Bytes → Bytes) (base64 : Bytes → String) (domain : String)
      (random : Except String Bytes) (hs : WsHandshake) (t : Duplex),
      (performHandshake sha1 base64 domain random).run ⟨stream, out⟩ = (.ok hs, t) →
        ∃ head, FirstBlankLine stream head ∧ stream = head ++ t.input) := by
  refine ⟨readHandshakeHeaders_ok_iff stream out, readHandshakeHeaders_oversized_iff stream out,
    readHandshakeHeaders_closed_iff stream out, ?_, ?_⟩
  · intro head t h f rest hstream
    obtain ⟨-, -, hsplit, hout⟩ := (readHandshakeHeaders_ok_iff stream out head t).mp h
    have hinput : t.input = f.encode ++ rest := List.append_cancel_left (hsplit.symm.trans hstream)
    obtain ⟨input, output⟩ := t
    dsimp only at hinput hout
    rw [hinput, hout, readFrame_encode]
  · intro sha1 base64 domain random hs t h
    obtain ⟨request, head, -, hread⟩ := performHandshake_ok sha1 base64 domain random _ t hs h
    obtain ⟨hfirst, -, hsplit, -⟩ := (readHandshakeHeaders_ok_iff stream _ head t).mp hread
    exact ⟨head, hfirst, hsplit⟩

end TgWsProxy.Guarantees.HandshakeHead
