import Ixo.Proofs.Scan.Place
import Ixo.Proofs.Scan.Printing
import Ixo.Proofs.Slice

/-!
# Cutting and joining sources

A scan can be cut wherever no token is cut: the scan of the source is the scan of the part before
and behind it the scan of the part after, which starts anew (`scan_cut`). So tokens that touch are
read as they would be read alone. The other way round, two sources with blanks between them are
scanned one after the other, unless the first ends in a literal or a comment that would take the
blanks (`scan_spaced`).
-/

set_option autoImplicit false

namespace Ixo

/-! ## Cuts -/

/-- A span has bytes on both sides of an offset. -/
def Span.Straddles (s : Span) (offset : Nat) : Prop :=
  s.offset < offset ∧ offset < s.offset + s.len

instance (s : Span) (offset : Nat) : Decidable (s.Straddles offset) :=
  inferInstanceAs (Decidable (s.offset < offset ∧ offset < s.offset + s.len))

/-- The part of a text in front of a cut that cuts no token is read as it was in the whole text. -/
theorem Reading.exists_endsBefore {r : Reading} {offset : Nat} {as bs : List Char}
    (normal : r.Normal .lenient) (h : r.spelling = as ++ bs)
    (cut : ∀ t ∈ r.tokens offset, ¬ t.span.Straddles (offset + byteLength as)) :
    ∃ s : Reading, s.Normal .lenient ∧ s.spelling = as ∧ s.EndsBefore bs := by
  induction r generalizing offset as with
  | done gap =>
      have hgap : gap = as ++ bs := h
      refine ⟨done as, ?_, rfl, trivial⟩
      intro c hc
      exact normal c (by rw [hgap]; exact List.mem_append_left bs hc)
  | lexeme gap l next ih =>
      obtain ⟨hgap, wf, ends, closed, hnext⟩ := normal
      rw [spelling, List.append_assoc] at h
      by_cases early : byteLength as ≤ byteLength gap
      · -- the cut is in the gap, and all before it is blank
        obtain ⟨more, hmore, -⟩ := exists_append_of_byteLength_le h.symm early
        refine ⟨done as, ?_, rfl, trivial⟩
        intro c hc
        exact hgap c (by rw [hmore]; exact List.mem_append_left more hc)
      · -- the first token is not cut, so the cut is behind it
        have first : ¬ (l.token (offset + byteLength gap)).span.Straddles
            (offset + byteLength as) := cut _ (by rw [tokens_lexeme]; exact List.mem_cons_self)
        have late : byteLength (gap ++ l.spelling) ≤ byteLength as := by
          simp only [Span.Straddles, Lexeme.token, Lexeme.size] at first
          rw [byteLength_append]
          omega
        rw [← List.append_assoc] at h
        obtain ⟨more, rfl, hrest⟩ := exists_append_of_byteLength_le h late
        have start : offset + byteLength gap + byteLength l.spelling + byteLength more =
            offset + byteLength (gap ++ l.spelling ++ more) := by
          simp only [byteLength_append]
          omega
        obtain ⟨s, hs, rfl, hends⟩ := ih hnext hrest fun t ht => by
          rw [start]
          exact cut t (by rw [tokens_lexeme]; exact List.mem_cons_of_mem _ ht)
        rw [hrest] at ends
        exact ⟨lexeme gap l s, ⟨hgap, wf, (stops_append_iff.mp ends).1, closed, hs⟩, rfl, ends, hends⟩
  | unclosed gap quote literal => cases normal.2.1
  | unmatched gap found next => exact absurd normal id

/-- Where no token is cut, the parts of a source read apart. -/
theorem readApart_of_cut {a b : String} {tokens : List Token}
    (h : scan .lenient (a ++ b) = .ok tokens)
    (cut : ∀ t ∈ tokens, ¬ t.span.Straddles (byteLength a.toList)) :
    ReadApart a.toList b.toList := by
  obtain ⟨r, normal, hsource, -, rfl⟩ := scan_eq_ok_iff.mp h
  rw [String.toList_append] at hsource
  have uncut : ∀ t ∈ r.tokens 0, ¬ t.span.Straddles (0 + byteLength a.toList) := by
    rw [Nat.zero_add]
    exact cut
  obtain ⟨s, hs, ha, ends⟩ := Reading.exists_endsBefore normal hsource uncut
  rw [← ha]
  exact (readApart_iff hs).mpr ends

/-- **A scan can be cut between tokens.** At an offset that no token of the lenient scan straddles,
the scan of the source is the scan of the part before and behind it the scan of the part after, in
both modes: the tokens in a row, and what is wrong in a row. -/
theorem scan_cut {a b : String} {tokens : List Token} (h : scan .lenient (a ++ b) = .ok tokens)
    (cut : ∀ t ∈ tokens, ¬ t.span.Straddles (byteLength a.toList)) (mode : Mode) :
    scan mode (a ++ b) = joined (byteLength a.toList) (scan mode a) (scan mode b) :=
  scan_append (readApart_of_cut h cut) mode

/-- A cut between an operator that ends in a point and the digit that it touches, in a source that
ends in an open literal. -/
theorem scan_cut_touching :
    scan .lenient ("é+." ++ "5'x") = .ok [⟨.unknown, "é", ⟨0, 2⟩⟩, ⟨.operator, "+.", ⟨2, 2⟩⟩,
        ⟨.number, "5", ⟨4, 1⟩⟩, ⟨.string, "x", ⟨5, 2⟩⟩] ∧
      scan .strict ("é+." ++ "5'x") = joined 4 (scan .strict "é+.") (scan .strict "5'x") := by
  have normal : Reading.Normal .lenient
      (.lexeme [] (.unknown 'é') (.lexeme [] (.operator ['+', '.'])
        (.lexeme [] (.number ['5']) (.lexeme [] (.literal '\'' ['x'] false) (.done []))))) := by
    decide
  have h : scan .lenient ("é+." ++ "5'x") = .ok [⟨.unknown, "é", ⟨0, 2⟩⟩,
      ⟨.operator, "+.", ⟨2, 2⟩⟩, ⟨.number, "5", ⟨4, 1⟩⟩, ⟨.string, "x", ⟨5, 2⟩⟩] :=
    scan_eq_of_normal normal rfl
  exact ⟨h, scan_cut h (by decide) .strict⟩

/-! ## Blanks between two sources -/

/-- The lenient scan finds what a strict scan that succeeds found, and the last token is not open. -/
theorem scan_lenient_of_strict {source : String} {tokens : List Token}
    (h : scan .strict source = .ok tokens) :
    scan .lenient source = .ok tokens ∧ ∀ t ∈ tokens.getLast?, ¬ t.IsOpen := by
  obtain ⟨found, lenient, ⟨strict, closed⟩ | ⟨t, before, quote, body, -, -, -, -, -, strict⟩⟩ :=
    scan_cases source
  · rw [strict] at h
    cases h
    exact ⟨lenient, closed⟩
  · rw [strict] at h
    cases h

/-- A blank ends every source but one with an open literal, and one that ends in a comment if the
blank is no line feed. -/
theorem readApart_of_blank {a : String} {tokens : List Token} {c : Char} {rest : List Char}
    (h : scan .strict a = .ok tokens) (hc : isBlank c = true)
    (feed : c = '\n' ∨ ∀ t ∈ tokens.getLast?, t.kind = .comment →
      t.span.offset + t.span.len ≠ byteLength a.toList) :
    ReadApart a.toList (c :: rest) := by
  obtain ⟨lenient, closed⟩ := scan_lenient_of_strict h
  rcases List.eq_nil_or_concat tokens with rfl | ⟨init, t, rfl⟩
  · exact ReadApart.of_blank (blank_of_scan_eq_nil lenient)
  · rw [List.concat_eq_append] at lenient closed feed
    obtain ⟨before, l, after, stands, rfl, -, us, hus, hnil⟩ := exists_standsAt lenient
    obtain rfl : us = [] := List.map_eq_nil_iff.mp hnil.symm
    have hafter := blank_of_scan_eq_nil hus
    rw [String.toList_ofList] at hafter
    have hlast : (init ++ [l.token (byteLength before)]).getLast? =
        some (l.token (byteLength before)) := List.getLast?_concat
    have isClosed : l.isClosed = true := by
      have := closed _ hlast
      rwa [Lexeme.isOpen_token_iff stands.wellFormed.1, Bool.not_eq_false] at this
    refine stands.readApart ?_ (ReadApart.of_blank hafter)
    cases after with
    | cons d ds => exact stops_append_iff.mpr ⟨stands.ends, by simp⟩
    | nil =>
        -- the last lexeme touches the blank
        refine stops_cons.mpr ?_
        by_cases hl : l.isComment = true
        · obtain ⟨body, rfl⟩ : ∃ body, l = .comment body := by
            cases l with
            | comment body => exact ⟨body, rfl⟩
            | _ => cases hl
          have hend : byteLength before + byteLength (Lexeme.comment body).spelling =
              byteLength a.toList := by
            rw [← stands.whole, List.append_nil, byteLength_append]
          have : c = '\n' := feed.resolve_right fun far => far _ hlast rfl hend
          rw [this]
          rfl
        · rw [Bool.not_eq_true] at hl
          exact Lexeme.absorbs_eq_false_of_isBlank hl isClosed hc

/-- Blanks that read apart from a source change nothing at the end of it. -/
theorem scan_append_blank {a w : String} {mode : Mode} {ts : List Token}
    (apart : ReadApart a.toList w.toList) (blank : ∀ c ∈ w.toList, isBlank c = true)
    (ha : scan mode a = .ok ts) : scan mode (a ++ w) = .ok ts := by
  rw [scan_append apart, ha, scan_blank blank]
  simp [joined]

/-- Behind blanks that read apart from a source, a second source is scanned anew. -/
theorem scan_append_blank_append {a w : String} {mode : Mode} {ts : List Token} (hw : w ≠ "")
    (apart : ReadApart a.toList w.toList) (blank : ∀ c ∈ w.toList, isBlank c = true)
    (ha : scan mode a = .ok ts) (b : String) :
    scan mode (a ++ w ++ b) = joined (byteLength (a ++ w).toList) (.ok ts) (scan mode b) := by
  have behind : ReadApart (a ++ w).toList b.toList := by
    rw [String.toList_append]
    refine ReadApart.append (apart.congr ?_) (ReadApart.of_blank blank)
    cases h : w.toList with
    | nil => exact absurd (String.toList_eq_nil_iff.mp h) hw
    | cons c cs => rfl
  rw [scan_append behind, scan_append_blank apart blank ha]

/-- **Sources with blanks between them are scanned one after the other.** The first source has to
succeed strictly, so that it leaves no literal open, and if it ends in a comment, the blanks have
to start with a line feed. Then the scan of both is the scan of the first and behind it the scan of
the second: it fails where the second fails, at the same place. Blanks at the end change nothing. -/
theorem scan_spaced {a w b : String} {ts : List Token} (ha : scan .strict a = .ok ts)
    (hw : w ≠ "") (blank : ∀ c ∈ w.toList, isBlank c = true)
    (feed : w.toList.head? = some '\n' ∨ ∀ t ∈ ts.getLast?, t.kind = .comment →
      t.span.offset + t.span.len ≠ byteLength a.toList) :
    (∀ mode, scan mode a = .ok ts) ∧ (∀ mode, scan mode (a ++ w) = .ok ts) ∧
      (∃ us, scan .lenient b = .ok us) ∧
      (∀ mode us, scan mode b = .ok us → scan mode (a ++ w ++ b) =
        .ok (ts ++ us.map (Token.shift (byteLength (a ++ w).toList)))) ∧
      ((∃ vs, scan .strict (a ++ w ++ b) = .ok vs) ↔ ∃ us, scan .strict b = .ok us) ∧
      ∀ ds, scan .strict b = .error ds → ∃ d, ds = [d] ∧ scan .strict (a ++ w ++ b) =
        .error [d.shift (byteLength (a ++ w).toList)] := by
  have first (mode : Mode) : scan mode a = .ok ts := by
    cases mode with
    | lenient => exact (scan_lenient_of_strict ha).1
    | strict => exact ha
  have apart : ReadApart a.toList w.toList := by
    cases hcs : w.toList with
    | nil => exact absurd (String.toList_eq_nil_iff.mp hcs) hw
    | cons c cs =>
        rw [hcs] at blank feed
        refine readApart_of_blank ha (blank c List.mem_cons_self) (feed.imp_left fun h => ?_)
        exact Option.some.inj h
  have whole (mode : Mode) := scan_append_blank_append hw apart blank (first mode) b
  refine ⟨first, fun mode => scan_append_blank apart blank (first mode), ?_, ?_, ?_, ?_⟩
  · obtain ⟨us, hus, -⟩ := scan_cases b
    exact ⟨us, hus⟩
  · intro mode us hus
    rw [whole, hus, joined]
  · rw [whole]
    cases scan .strict b <;> simp [joined]
  · intro ds hds
    obtain ⟨quote, span, rfl⟩ := scan_error hds
    refine ⟨_, rfl, ?_⟩
    rw [whole, hds]
    rfl

/-- A comment that ends at a line feed, in front of a source that fails. -/
theorem scan_spaced_comment :
    scan .strict "f#é" = .ok [⟨.identifier, "f", ⟨0, 1⟩⟩, ⟨.comment, "#é", ⟨1, 3⟩⟩] ∧
      scan .strict "'y" = .error [(Fault.unterminatedLiteral '\'').diagnostic ⟨0, 2⟩] ∧
      scan .strict ("f#é" ++ "\n\t" ++ "'y") =
        .error [(Fault.unterminatedLiteral '\'').diagnostic ⟨6, 2⟩] := by
  have normal : Reading.Normal .strict
      (.lexeme [] (.word ['f']) (.lexeme [] (.comment ['é']) (.done []))) := by decide
  have ha : scan .strict "f#é" =
      .ok [⟨.identifier, "f", ⟨0, 1⟩⟩, ⟨.comment, "#é", ⟨1, 3⟩⟩] := scan_eq_of_normal normal rfl
  have normal' : Reading.Normal .strict (.unclosed [] '\'' ['\'', 'y']) := by decide
  have hb : scan .strict "'y" = .error [(Fault.unterminatedLiteral '\'').diagnostic ⟨0, 2⟩] :=
    scan_eq_of_normal normal' rfl
  obtain ⟨-, -, -, -, -, fails⟩ :=
    scan_spaced ha (w := "\n\t") (b := "'y") (by decide) (List.all_eq_true.mp rfl) (Or.inl rfl)
  obtain ⟨d, hd, hfails⟩ := fails _ hb
  obtain rfl := (List.cons.inj hd).1
  exact ⟨ha, hb, hfails⟩

end Ixo
