import Ixo.Proofs.Scan.Junction

/-!
# Lexemes in their place

A lexeme *stands* in a source if it is read there (`StandsAt`). Every token of a scan is that of a
lexeme which stands in the source (`exists_standsAt`). Around a lexeme a source reads apart, so the
scan is made of what is before it, the lexeme alone, and what is behind it (`StandsAt.scan_eq`).
Another lexeme can take its place (`StandsAt.replace`), and in a source that goes on, a lexeme stands
where one stood (`StandsAt.exists_grown`).
-/

set_option autoImplicit false

namespace Ixo

/-- The scan of a lexeme alone. -/
theorem scan_spelling {l : Lexeme} (wf : l.WellFormed) {mode : Mode}
    (closed : mode = .strict → l.isClosed = true) :
    scan mode (String.ofList l.spelling) = .ok [l.token 0] := by
  have normal : (Reading.lexeme [] l (.done [])).Normal mode :=
    ⟨by simp, wf, stops_nil _, closed, by simp [Reading.Normal]⟩
  have whole : (Reading.lexeme [] l (.done [])).spelling = (String.ofList l.spelling).toList := by
    simp [Reading.spelling]
  rw [scan_eq_of_normal normal whole]
  simp

/-- Only a literal can lack its end. -/
theorem Lexeme.exists_eq_literal {l : Lexeme} (h : l.isClosed = false) :
    ∃ quote body, l = .literal quote body false := by
  cases l with
  | literal quote body closed =>
      obtain rfl : closed = false := h
      exact ⟨quote, body, rfl⟩
  | _ => cases h

/-- A lexeme is read in a source, between two texts. -/
structure StandsAt (source before : List Char) (l : Lexeme) (after : List Char) : Prop where
  whole : before ++ (l.spelling ++ after) = source
  wellFormed : l.WellFormed
  ends : l.EndsBefore after
  apart : ReadApart before (l.spelling ++ after)

namespace StandsAt

variable {source before after : List Char} {l m : Lexeme}

/-- Where a lexeme stands, another one can stand that starts and ends alike. -/
theorem replace (h : StandsAt source before l after) (wf : m.WellFormed)
    (head : m.spelling.head? = l.spelling.head?) (ends : m.EndsBefore after) :
    StandsAt (before ++ (m.spelling ++ after)) before m after := by
  refine ⟨rfl, wf, ends, h.apart.congr ?_⟩
  rw [List.head?_append, List.head?_append, head]

/-- The scan of a source around a lexeme. -/
theorem scan_eq (h : StandsAt source before l after) (mode : Mode) :
    scan mode (String.ofList source) =
      joined (byteLength before) (scan mode (String.ofList before))
        (joined l.size (scan mode (String.ofList l.spelling))
          (scan mode (String.ofList after))) := by
  have apart : ReadApart (String.ofList before).toList
      (String.ofList (l.spelling ++ after)).toList := by
    rw [String.toList_ofList, String.toList_ofList]
    exact h.apart
  have apart' : ReadApart (String.ofList l.spelling).toList (String.ofList after).toList := by
    rw [String.toList_ofList, String.toList_ofList]
    exact (ReadApart.spelling_iff h.wellFormed).mpr h.ends
  rw [← h.whole, String.ofList_append, scan_append apart, String.ofList_append,
    scan_append apart', String.toList_ofList, String.toList_ofList]
  rfl

/-- What stands before a lexeme has the same tokens in both modes. -/
theorem scan_before_eq (h : StandsAt source before l after) (mode : Mode) :
    scan mode (String.ofList before) = scan .lenient (String.ofList before) := by
  cases mode with
  | lenient => rfl
  | strict =>
      obtain ⟨c, cs, hc⟩ := l.spelling_eq_cons h.wellFormed.1
      have apart : ReadApart (String.ofList before).toList (c :: (cs ++ after)) := by
        have := h.apart
        rw [hc] at this
        rw [String.toList_ofList]
        exact this
      exact scan_strict_of_readApart apart

/-- The scan of a source up to a lexeme has the tokens of what is before and the token of the lexeme,
if the mode lets the lexeme stand. -/
theorem scan_eq_joined (h : StandsAt source before l after) {mode : Mode} {earlier : List Token}
    (closed : mode = .strict → l.isClosed = true)
    (hbefore : scan .lenient (String.ofList before) = .ok earlier) :
    scan mode (String.ofList source) =
      joined (byteLength before + l.size) (.ok (earlier ++ [l.token (byteLength before)]))
        (scan mode (String.ofList after)) := by
  have alone : scan mode (String.ofList l.spelling) = .ok [l.token 0] :=
    scan_spelling h.wellFormed closed
  have both : joined (byteLength before) (.ok earlier) (.ok [l.token 0]) =
      .ok (earlier ++ [l.token (byteLength before)]) := by
    simp [joined, Lexeme.shift_token]
  rw [h.scan_eq, h.scan_before_eq, hbefore, alone, joined_joined, both]

/-- The lenient scan has the token of a lexeme between the tokens of the text before and those of the
text behind. -/
theorem scan_lenient_eq {source : String} (h : StandsAt source.toList before l after)
    {earlier us : List Token} (hbefore : scan .lenient (String.ofList before) = .ok earlier)
    (hafter : scan .lenient (String.ofList after) = .ok us) :
    scan .lenient source = .ok (earlier ++
      l.token (byteLength before) :: us.map (Token.shift (byteLength before + l.size))) := by
  have joint : scan .lenient _ = _ := h.scan_eq_joined (by simp) hbefore
  rw [String.ofList_toList, hafter, joined, List.append_assoc] at joint
  exact joint

/-- Nothing stands behind an open literal. -/
theorem after_eq_nil {quote : Char} {body : List Char}
    (h : StandsAt source before (.literal quote body false) after) : after = [] := by
  cases after with
  | nil => rfl
  | cons c cs => cases stops_cons.mp h.ends

/-- A strict scan fails at an open literal in its place. -/
theorem scan_strict_literal {quote : Char} {body : List Char} {earlier : List Token}
    (h : StandsAt source before (.literal quote body false) after)
    (hbefore : scan .lenient (String.ofList before) = .ok earlier) :
    scan .strict (String.ofList source) = .error [(Fault.unterminatedLiteral quote).diagnostic
      ((Lexeme.literal quote body false).token (byteLength before)).span] := by
  have normal : (Reading.unclosed [] quote (quote :: body)).Normal .strict :=
    ⟨by simp, rfl, h.wellFormed.1.1, body, rfl, h.wellFormed.1.2⟩
  have alone : scan .strict (String.ofList (Lexeme.literal quote body false).spelling) =
      .error [(Fault.unterminatedLiteral quote).diagnostic
        ⟨0, (Lexeme.literal quote body false).size⟩] := by
    rw [scan_eq_of_normal normal (by simp [Reading.spelling, Lexeme.spelling])]
    simp [Lexeme.size, Lexeme.spelling]
  have rest : scan .strict (String.ofList after) = .ok [] := by
    rw [h.after_eq_nil]
    exact scan_blank (by simp) .strict
  rw [h.scan_eq, h.scan_before_eq, hbefore, alone, rest]
  simp [joined, Diagnostic.shift, Fault.diagnostic, Span.shift, Lexeme.token]

/-- In a source that goes on, a lexeme stands where one stood. It is at least as long, and it is the
same if that one would end before the text that has come. -/
theorem exists_grown (h : StandsAt source before l after) (more : List Char) :
    ∃ m rest, StandsAt (source ++ more) before m rest ∧ l.spelling <+: m.spelling ∧
      (l.EndsBefore (after ++ more) → m = l) := by
  obtain ⟨c, cs, hc, blank⟩ := h.wellFormed.spelling_eq_cons
  obtain ⟨m, rest, hm, wf, ends⟩ := exists_lexeme_of_not_isBlank (cs ++ (after ++ more)) blank
  have same : l.spelling ++ (after ++ more) = m.spelling ++ rest := by
    rw [hm, hc, List.cons_append]
  refine ⟨m, rest, ⟨?_, wf, ends, h.apart.congr ?_⟩, ?_, fun settled => ?_⟩
  · rw [← same, ← h.whole, List.append_assoc, List.append_assoc]
  · rw [← same, hc]
    rfl
  · exact Lexeme.spelling_prefix_of_endsBefore h.wellFormed wf ends same
  · exact (Lexeme.append_inj_of_endsBefore h.wellFormed wf settled ends same).1.symm

/-- A source and a text behind it read apart if the last lexeme would end before that text. -/
theorem readApart (h : StandsAt source before l after) {rest : List Char}
    (ends : l.EndsBefore (after ++ rest)) (hafter : ReadApart after rest) :
    ReadApart source rest := by
  obtain ⟨c, cs, hc⟩ := l.spelling_eq_cons h.wellFormed.1
  have apart : ReadApart before ((l.spelling ++ after) ++ rest) := by
    refine h.apart.congr ?_
    rw [hc]
    rfl
  have lexeme : ReadApart l.spelling (after ++ rest) := (ReadApart.spelling_iff h.wellFormed).mpr ends
  rw [← h.whole]
  exact apart.append (lexeme.append hafter)

end StandsAt

/-- **A token of a scan is that of a lexeme in its place.** The tokens before it are those of the
text before, and the tokens behind it those of the text behind. -/
theorem exists_standsAt {source : String} {earlier later : List Token} {t : Token}
    (h : scan .lenient source = .ok (earlier ++ t :: later)) :
    ∃ before l after, StandsAt source.toList before l after ∧ t = l.token (byteLength before) ∧
      scan .lenient (String.ofList before) = .ok earlier ∧
      ∃ us, scan .lenient (String.ofList after) = .ok us ∧
        later = us.map (Token.shift (byteLength before + l.size)) := by
  obtain ⟨r, normal, hsource, -, htokens⟩ := scan_eq_ok_iff.mp h
  obtain ⟨s, l, next, hspelling, hs, hends, wf, ends, -, hnext, rfl, rfl, rfl⟩ :=
    Reading.exists_spelling_eq_of_tokens_eq normal htokens
  have found {u : Reading} (hu : u.Normal .lenient) :
      scan .lenient (String.ofList u.spelling) = .ok (u.tokens 0) :=
    scan_eq_ok_iff.mpr
      ⟨u, hu, String.toList_ofList.symm, Reading.diagnostics_lenient hu 0, rfl⟩
  refine ⟨s.spelling, l, next.spelling, ⟨?_, wf, ends, (readApart_iff hs).mpr hends⟩, ?_,
    found hs, next.tokens 0, found hnext, ?_⟩
  · rw [← hspelling, hsource]
  · rw [Nat.zero_add]
  · rw [Nat.zero_add, next.tokens_eq_map_shift]

end Ixo
