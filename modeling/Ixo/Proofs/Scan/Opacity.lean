import Ixo.Proofs.Scan.Place
import Ixo.Proofs.Slice
import Mathlib.Data.List.Forall2

/-!
# Contents are opaque

What stands between the quotes of a literal, or behind the `#` of a comment, is its content
(`Token.content`). Any other content that does not end the token early can take its place, and
nothing else changes: the tokens before it stay, and the tokens behind it move by the difference in
length (`scan_refilled`). No content reaches the tokens around it, whatever quotes, signs of comment
or line feeds it has.
-/

set_option autoImplicit false

namespace Ixo

/-! ## Contents -/

/-- What stands between the quotes of a literal, or behind the `#` of a comment. -/
def Token.content (t : Token) : List Char :=
  if t.kind = .comment then t.text.toList.tail else t.text.toList

/-- Where the content stands in the source: behind the quote or the `#`. -/
def Token.contentSpan (t : Token) : Span := ⟨t.span.offset + 1, byteLength t.content⟩

/-- The character that no content has: the line feed for a comment, and for a literal the quote
that opened it. -/
def Token.ending (t : Token) (opening : Char) : Char :=
  if t.kind = .comment then '\n' else opening

/-- The span `t` is the span `s`, moved by `d` bytes. -/
structure Span.Moved (d : Int) (s t : Span) : Prop where
  len_eq : t.len = s.len
  offset_eq : (t.offset : Int) = s.offset + d

/-- The token `u` is the token `t`, moved by `d` bytes. -/
structure Token.Moved (d : Int) (t u : Token) : Prop where
  kind_eq : u.kind = t.kind
  text_eq : u.text = t.text
  span : t.span.Moved d u.span

/-- The token `u` is the token `t` with another content in the same place. -/
structure Token.Refilled (content : List Char) (t u : Token) : Prop where
  kind_eq : u.kind = t.kind
  text_eq : u.text.toList = if t.kind = .comment then '#' :: content else content
  offset_eq : u.span.offset = t.span.offset
  len_eq : (u.span.len : Int) = t.span.len + (byteLength content - byteLength t.content)

namespace Lexeme

/-- The lexeme with another content. Only comments and literals have one. -/
def refill (content : List Char) : Lexeme → Lexeme
  | comment _ => comment content
  | literal quote _ closed => literal quote content closed
  | l => l

variable {l : Lexeme}

theorem kind_refill (content : List Char) (l : Lexeme) : (l.refill content).kind = l.kind := by
  cases l <;> rfl

theorem isClosed_refill (content : List Char) (l : Lexeme) :
    (l.refill content).isClosed = l.isClosed := by
  cases l <;> rfl

theorem absorbs_refill (content : List Char) (l : Lexeme) :
    (l.refill content).absorbs = l.absorbs := by
  cases l <;> rfl

/-- A content stands between the first character and what closes a literal, and any content without
the ending character can stand there. -/
theorem exists_spelling_eq (wf : l.WellFormed) (offset : Nat)
    (hk : l.kind = .string ∨ l.kind = .comment) :
    ∃ opening closing, l.spelling = opening :: ((l.token offset).content ++ closing) ∧
      opening.utf8Size = 1 ∧ (l.kind = .string → isQuote opening = true) ∧
      (l.kind = .comment → opening = '#') ∧
      ∀ content, (l.token offset).ending opening ∉ content →
        (l.refill content).WellFormed ∧
        (l.refill content).spelling = opening :: (content ++ closing) ∧
        (l.refill content).text = if l.kind = .comment then '#' :: content else content := by
  cases l with
  | comment body =>
      refine ⟨'#', [], ?_, by decide, by simp [kind], fun _ => rfl, fun content h => ?_⟩
      · simp [spelling, Token.content, token, kind, text]
      · have feed : '\n' ∉ content := by simpa [Token.ending, token, kind] using h
        refine ⟨⟨feed, rfl⟩, ?_, rfl⟩
        simp [refill, spelling]
  | literal quote body closed =>
      refine ⟨quote, if closed then [quote] else [], ?_, utf8Size_of_isQuote wf.1.1,
        fun _ => wf.1.1, by simp [kind], fun content h => ?_⟩
      · simp [spelling, Token.content, token, kind, text]
      · have unquoted : quote ∉ content := by simpa [Token.ending, token, kind] using h
        exact ⟨⟨⟨wf.1.1, unquoted⟩, rfl⟩, rfl, rfl⟩
  | word cs =>
      rcases Kind.ofWord_cases (String.ofList cs) with h | h | h <;> simp [kind, h] at hk
  | bracket c =>
      simp only [kind] at hk
      repeat' split at hk
      all_goals simp at hk
  | number _ | punctuation _ | operator _ | unknown _ => simp [kind] at hk

end Lexeme

/-! ## Two scans around one place -/

/-- What a shift moves by more bytes is moved by the difference. -/
theorem forall₂_moved_shift {d : Int} {j k : Nat} (h : (k : Int) = j + d) (ts : List Token) :
    List.Forall₂ (Token.Moved d) (ts.map (Token.shift j)) (ts.map (Token.shift k)) := by
  rw [List.forall₂_map_left_iff, List.forall₂_map_right_iff, List.forall₂_same]
  intro t _
  refine ⟨rfl, rfl, rfl, ?_⟩
  show ((t.span.offset + k : Nat) : Int) = ((t.span.offset + j : Nat) : Int) + d
  omega

/-- Two scans succeed both, or both fail at one open literal with the same quote, at spans that are
related. -/
def FailAlike (related : Span → Span → Prop) : Scan.Outcome → Scan.Outcome → Prop
  | .ok _, .ok _ => True
  | .error ds, .error es => ∃ quote s t,
      ds = [(Fault.unterminatedLiteral quote).diagnostic s] ∧
        es = [(Fault.unterminatedLiteral quote).diagnostic t] ∧ related s t
  | .ok _, .error _ | .error _, .ok _ => False

theorem FailAlike.imp {related related' : Span → Span → Prop} {a b : Scan.Outcome}
    (h : FailAlike related a b) (weaker : ∀ s t, related s t → related' s t) :
    FailAlike related' a b := by
  cases a with
  | ok ts => cases b <;> exact h
  | error ds =>
      cases b with
      | ok us => exact h
      | error es =>
          obtain ⟨quote, s, t, hds, hes, hst⟩ := h
          exact ⟨quote, s, t, hds, hes, weaker s t hst⟩

/-- Behind tokens of different lengths, a scan fails at places that differ by as much. -/
theorem failAlike_joined {d : Int} {j k : Nat} (h : (k : Int) = j + d) (ts us : List Token)
    (rest : String) :
    FailAlike (fun s t => j ≤ s.offset ∧ s.Moved d t) (joined j (.ok ts) (scan .strict rest))
      (joined k (.ok us) (scan .strict rest)) := by
  cases hrest : scan .strict rest with
  | ok vs => trivial
  | error ds =>
      obtain ⟨quote, span, rfl⟩ := scan_error hrest
      refine ⟨quote, span.shift j, span.shift k, rfl, rfl, ?_, rfl, ?_⟩
      · exact Nat.le_add_left j span.offset
      · show ((span.offset + k : Nat) : Int) = ((span.offset + j : Nat) : Int) + d
        omega

/-- With another content, a source fails where it failed before, or not at all. -/
theorem failAlike_refill {source filled : String} {before after content : List Char} {l : Lexeme}
    {earlier : List Token} {d : Int} (h : StandsAt source.toList before l after)
    (h' : StandsAt filled.toList before (l.refill content) after)
    (hbefore : scan .lenient (String.ofList before) = .ok earlier)
    (further : ((byteLength before + (l.refill content).size : Nat) : Int) =
      (byteLength before + l.size : Nat) + d) :
    FailAlike (fun s s' => s = (l.token (byteLength before)).span ∧
          s' = ((l.refill content).token (byteLength before)).span ∨
        byteLength before + l.size ≤ s.offset ∧ s.Moved d s')
      (scan .strict source) (scan .strict filled) := by
  cases closed : l.isClosed with
  | true =>
      -- both scans go on behind the token, and fail there or not at all
      have closed' : (l.refill content).isClosed = true := (l.isClosed_refill content).trans closed
      have strict : scan .strict _ = _ := h.scan_eq_joined (fun _ => closed) hbefore
      have strict' : scan .strict _ = _ := h'.scan_eq_joined (fun _ => closed') hbefore
      rw [String.ofList_toList] at strict strict'
      rw [strict, strict']
      exact (failAlike_joined further _ _ _).imp fun s s' hs => Or.inr hs
  | false =>
      -- the token itself is the open literal
      obtain ⟨quote, body, rfl⟩ := Lexeme.exists_eq_literal closed
      have strict := h.scan_strict_literal hbefore
      have strict' := StandsAt.scan_strict_literal h' hbefore
      rw [String.ofList_toList] at strict strict'
      rw [strict, strict']
      exact ⟨quote, _, _, rfl, rfl, Or.inl ⟨rfl, rfl⟩⟩

/-- **Contents are opaque.** A literal or comment of a source is cut into what opens it, its content
and what follows. With another content that does not have the ending character in place of it, the
scan finds the same tokens before, the token with the new content, and the same tokens behind, moved
by the difference in length. The strict scan fails with the new content if and only if it fails with
the old one, at the same quote: at the token itself, or at a literal behind it that has moved. -/
theorem scan_refilled {source : String} {earlier later : List Token} {t : Token}
    (h : scan .lenient source = .ok (earlier ++ t :: later))
    (ht : t.kind = .string ∨ t.kind = .comment) :
    ∃ before opening after,
      t.contentSpan.Cuts source.toList (before ++ [opening]) t.content after ∧
      byteLength before = t.span.offset ∧ (t.kind = .string → isQuote opening = true) ∧
      (t.kind = .comment → opening = '#') ∧
      ∀ (content : List Char) (filled : String), t.ending opening ∉ content →
        filled.toList = before ++ [opening] ++ content ++ after →
        ∃ u moved, scan .lenient filled = .ok (earlier ++ u :: moved) ∧ t.Refilled content u ∧
          List.Forall₂ (Token.Moved (byteLength content - byteLength t.content)) later moved ∧
          FailAlike (fun s s' => s = t.span ∧ s' = u.span ∨
              t.span.offset + t.span.len ≤ s.offset ∧
                s.Moved (byteLength content - byteLength t.content) s')
            (scan .strict source) (scan .strict filled) := by
  obtain ⟨before, l, after, stands, rfl, hbefore, us, hus, rfl⟩ := exists_standsAt h
  obtain ⟨opening, closing, hl, one, hquote, hsign, refill⟩ :=
    Lexeme.exists_spelling_eq stands.wellFormed (byteLength before) ht
  refine ⟨before, opening, closing ++ after, ⟨?_, ?_, rfl⟩, rfl, hquote, hsign, ?_⟩
  · rw [← stands.whole, hl]
    simp
  · simp [one, Token.contentSpan, Lexeme.token]
  · intro content filled hcontent hfilled
    obtain ⟨wf, hm, htext⟩ := refill content hcontent
    -- the lexeme with the new content stands where the other one stood
    have stands' : StandsAt filled.toList before (l.refill content) after := by
      have whole : filled.toList = before ++ ((l.refill content).spelling ++ after) := by
        rw [hfilled, hm]
        simp
      rw [whole]
      refine stands.replace wf ?_ ?_
      · rw [hl, hm]
        rfl
      · rw [Lexeme.EndsBefore, Lexeme.absorbs_refill]
        exact stands.ends
    have size : ((l.refill content).size : Int) = l.size +
        (byteLength content - byteLength (l.token (byteLength before)).content) := by
      simp only [Lexeme.size, hl, hm, byteLength_cons, byteLength_append]
      omega
    have further : ((byteLength before + (l.refill content).size : Nat) : Int) =
        (byteLength before + l.size : Nat) +
          (byteLength content - byteLength (l.token (byteLength before)).content) := by
      omega
    refine ⟨_, _, stands'.scan_lenient_eq hbefore hus, ⟨l.kind_refill content, ?_, rfl, size⟩,
      forall₂_moved_shift further us, failAlike_refill stands stands' hbefore further⟩
    exact String.toList_ofList.trans htext

/-- A content with a `#` and a quote of the other kind, in front of a comment and an open literal. -/
theorem scan_refilled_signs :
    scan .lenient "x'a'#é\n\"b" = .ok ([⟨.identifier, "x", ⟨0, 1⟩⟩] ++
        ⟨.string, "a", ⟨1, 3⟩⟩ :: [⟨.comment, "#é", ⟨4, 3⟩⟩, ⟨.string, "b", ⟨8, 2⟩⟩]) ∧
      ∃ u moved, scan .lenient "x'#\"é'#é\n\"b" =
          .ok ([⟨.identifier, "x", ⟨0, 1⟩⟩] ++ u :: moved) ∧
        (⟨.string, "a", ⟨1, 3⟩⟩ : Token).Refilled ['#', '"', 'é'] u ∧
        List.Forall₂ (Token.Moved 3) [⟨.comment, "#é", ⟨4, 3⟩⟩, ⟨.string, "b", ⟨8, 2⟩⟩] moved := by
  have normal : Reading.Normal .lenient
      (.lexeme [] (.word ['x']) (.lexeme [] (.literal '\'' ['a'] true)
        (.lexeme [] (.comment ['é']) (.lexeme ['\n'] (.literal '"' ['b'] false) (.done []))))) := by
    decide
  have h : scan .lenient "x'a'#é\n\"b" = .ok ([⟨.identifier, "x", ⟨0, 1⟩⟩] ++
      ⟨.string, "a", ⟨1, 3⟩⟩ :: [⟨.comment, "#é", ⟨4, 3⟩⟩, ⟨.string, "b", ⟨8, 2⟩⟩]) :=
    scan_eq_of_normal normal rfl
  obtain ⟨before, opening, after, cuts, -, -, -, refilled⟩ := scan_refilled h (Or.inl rfl)
  -- the source is cut in one way
  obtain ⟨hbefore, -, hafter⟩ := cuts.unique
    (⟨rfl, rfl, rfl⟩ : Span.Cuts _ _ ['x', '\''] ['a'] ['\'', '#', 'é', '\n', '"', 'b'])
  obtain ⟨rfl, rfl⟩ : before = ['x'] ∧ opening = '\'' := by
    have := List.append_inj' (show before ++ [opening] = ['x'] ++ ['\''] from hbefore) rfl
    exact ⟨this.1, List.singleton_inj.mp this.2⟩
  obtain ⟨u, moved, found, hu, hmoved, -⟩ :=
    refilled ['#', '"', 'é'] "x'#\"é'#é\n\"b" (by decide) (by rw [hafter]; rfl)
  exact ⟨h, u, moved, found, hu, hmoved⟩

end Ixo
