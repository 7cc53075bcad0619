import Ixo.Proofs.Scan.Place

/-!
# Sources that grow

Text at the end of a source can change the last token only: what was scanned before stays, and the
last token can get longer, but it starts where it did (`scan_grown`). It stays as well if it ends
before the end of the source, or if it is final (`Token.IsFinal`), which can be told from the token
alone. What is left are the tokens that go on with what comes: comments, words, numbers, operators
and open literals that touch the end of the source.

An open literal is what a strict scan fails at, so the same lemmas say how it is repaired: the quote
that is reported closes the literal, and text without that quote does not (`scan_repaired`).
-/

set_option autoImplicit false

namespace Ixo

/-- A token of one character, or a literal with both of its quotes. -/
def Token.IsFinal (t : Token) : Prop :=
  t.kind ∈ [.blockStart, .blockEnd, .delimiter, .punctuation, .unknown] ∨
    t.kind = .string ∧ t.span.len = byteLength t.text.toList + 2

/-- A token that goes on with some characters. -/
def Token.IsGrowing (t : Token) : Prop :=
  t.kind ∈ [.comment, .keyword, .typeName, .identifier, .number, .operator] ∨ t.IsOpen

namespace Lexeme

variable {l : Lexeme}

/-- A literal has its body and a byte for each of its quotes. -/
theorem size_literal {quote : Char} (hq : isQuote quote = true) (body : List Char)
    (closed : Bool) :
    (literal quote body closed).size = byteLength body + if closed then 2 else 1 := by
  have one := utf8Size_of_isQuote hq
  cases closed with
  | true =>
      simp only [size, spelling, if_true, byteLength_cons, byteLength_append, byteLength_nil, one]
      omega
  | false => simp [size, spelling, one, Nat.add_comm]

/-- A lexeme with a final token goes on with nothing. -/
theorem absorbs_eq_false_of_isFinal (shape : l.HasShape) {offset : Nat}
    (final : (l.token offset).IsFinal) (c : Char) : l.absorbs c = false := by
  cases l with
  | bracket d | punctuation d | unknown d => rfl
  | literal quote body closed =>
      cases closed with
      | true => rfl
      | false =>
          rcases final with hk | ⟨-, hlen⟩
          · simp [token, kind] at hk
          · simp [token, text, size_literal shape.1] at hlen
  | word cs =>
      rcases Kind.ofWord_cases (String.ofList cs) with hk | hk | hk <;>
        simp [Token.IsFinal, token, kind, hk] at final
  | comment _ | number _ | operator _ => simp [Token.IsFinal, token, kind] at final

/-- Every other lexeme has a token that grows. -/
theorem isFinal_or_isGrowing (shape : l.HasShape) (offset : Nat) :
    (l.token offset).IsFinal ∨ (l.token offset).IsGrowing := by
  cases l with
  | bracket c =>
      left
      left
      simp only [token, kind]
      repeat' split
      all_goals decide
  | punctuation c | unknown c => exact Or.inl (Or.inl (by simp [token, kind]))
  | literal quote body closed =>
      cases closed with
      | true =>
          refine Or.inl (Or.inr ⟨rfl, ?_⟩)
          simp [token, text, size_literal shape.1]
      | false => exact Or.inr (Or.inr ((isOpen_token_iff shape offset).mpr rfl))
  | word cs =>
      right
      left
      rcases Kind.ofWord_cases (String.ofList cs) with hk | hk | hk <;> simp [token, kind, hk]
  | comment _ | number _ | operator _ => exact Or.inr (Or.inl (by simp [token, kind]))

end Lexeme

/-- **Text at the end of a source changes the last token at most.** The tokens before the last are
kept, and where the last one started, one starts that is at least as long. The last one is kept too
if it ends before the end of the source or is final. So the one that changes is a comment, a word,
a number, an operator or an open literal, and it touches the end of the source. -/
theorem scan_grown {a b : String} {init : List Token} {last : Token}
    (h : scan .lenient a = .ok (init ++ [last])) :
    ∃ next more, scan .lenient (a ++ b) = .ok (init ++ next :: more) ∧
      next.span.offset = last.span.offset ∧ last.span.len ≤ next.span.len ∧
      (last.span.offset + last.span.len < byteLength a.toList ∨ last.IsFinal → next = last) ∧
      (next ≠ last →
        last.span.offset + last.span.len = byteLength a.toList ∧ last.IsGrowing) := by
  obtain ⟨before, l, after, stands, rfl, hbefore, -⟩ := exists_standsAt h
  have shape := stands.wellFormed.1
  obtain ⟨m, rest, grown, longer, kept⟩ := stands.exists_grown b.toList
  rw [← String.toList_append] at grown
  obtain ⟨us, hus, -⟩ := scan_cases (String.ofList rest)
  have size : byteLength a.toList = byteLength before + l.size + byteLength after := by
    rw [← stands.whole, byteLength_append, byteLength_append, Lexeme.size, Nat.add_assoc]
  -- what is behind the last lexeme keeps it apart, and so does a final token
  have inside (h : after ≠ []) : m = l := kept (stops_append_iff.mpr ⟨stands.ends, by simp [h]⟩)
  have final (h : (l.token (byteLength before)).IsFinal) : m = l :=
    kept fun d _ => Lexeme.absorbs_eq_false_of_isFinal shape h d
  refine ⟨m.token (byteLength before), _, grown.scan_lenient_eq hbefore hus, rfl, ?_, ?_, ?_⟩
  · obtain ⟨tail, htail⟩ := longer
    show byteLength l.spelling ≤ byteLength m.spelling
    rw [← htail, byteLength_append]
    exact Nat.le_add_right _ _
  · rintro (early | h)
    · have : after ≠ [] := by
        rintro rfl
        simp only [Lexeme.token, size, byteLength_nil] at early
        omega
      rw [inside this]
    · rw [final h]
  · intro changed
    have nothing : after = [] := by
      by_contra h
      exact changed (by rw [inside h])
    constructor
    · rw [size, nothing]
      rfl
    · rcases Lexeme.isFinal_or_isGrowing shape (byteLength before) with h | growing
      · exact absurd (by rw [final h]) changed
      · exact growing

/-- An identifier that becomes a keyword when the source goes on. -/
theorem scan_grown_keyword :
    scan .lenient "x=i" = .ok ([⟨.identifier, "x", ⟨0, 1⟩⟩, ⟨.operator, "=", ⟨1, 1⟩⟩] ++
        [⟨.identifier, "i", ⟨2, 1⟩⟩]) ∧
      ∃ next more, scan .lenient ("x=i" ++ "f'") = .ok
          ([⟨.identifier, "x", ⟨0, 1⟩⟩, ⟨.operator, "=", ⟨1, 1⟩⟩] ++ next :: more) ∧
        next.span.offset = 2 ∧ 1 ≤ next.span.len := by
  have normal : Reading.Normal .lenient
      (.lexeme [] (.word ['x']) (.lexeme [] (.operator ['='])
        (.lexeme [] (.word ['i']) (.done [])))) := by decide
  have h : scan .lenient "x=i" = .ok ([⟨.identifier, "x", ⟨0, 1⟩⟩, ⟨.operator, "=", ⟨1, 1⟩⟩] ++
      [⟨.identifier, "i", ⟨2, 1⟩⟩]) := scan_eq_of_normal normal rfl
  obtain ⟨next, more, found, offset, len, -⟩ := scan_grown (b := "f'") h
  exact ⟨h, next, more, found, offset, len⟩

/-! ## Closing the open literal -/

/-- The last lexeme of a source can take what comes, if there is a lexeme that is spelled so. -/
theorem StandsAt.prolong {source before more : List Char} {l m : Lexeme}
    (h : StandsAt source before l []) (wf : m.WellFormed) (hm : m.spelling = l.spelling ++ more) :
    StandsAt (source ++ more) before m [] := by
  obtain ⟨c, cs, hc⟩ := l.spelling_eq_cons h.wellFormed.1
  have head : m.spelling.head? = l.spelling.head? := by
    rw [hm, hc]
    rfl
  have whole : before ++ (m.spelling ++ []) = source ++ more := by
    rw [← h.whole, hm]
    simp
  rw [← whole]
  exact h.replace wf head (stops_nil _)

/-- A strict scan that fails has come to an open literal, with which the source ends. -/
theorem exists_open_literal {source : String} {ds : List Diagnostic}
    (h : scan .strict source = .error ds) :
    ∃ before quote body earlier,
      StandsAt source.toList before (.literal quote body false) [] ∧
        scan .lenient (String.ofList before) = .ok earlier := by
  obtain ⟨tokens, lenient, ⟨strict, -⟩ | ⟨t, -, -, -, hlast, hopen, -⟩⟩ := scan_cases source
  · rw [strict] at h
    cases h
  · -- the last lenient token is open, so its lexeme is a literal without an end
    obtain ⟨init, rfl⟩ := List.getLast?_eq_some_iff.mp hlast
    obtain ⟨before, l, after, stands, rfl, hbefore, -⟩ := exists_standsAt lenient
    have unclosed := (Lexeme.isOpen_token_iff stands.wellFormed.1 _).mp hopen
    obtain ⟨quote, body, rfl⟩ := Lexeme.exists_eq_literal unclosed
    obtain rfl := stands.after_eq_nil
    exact ⟨before, quote, body, init, stands, hbefore⟩

namespace StandsAt

variable {source : String} {before body : List Char} {quote : Char} {earlier : List Token}

/-- With its quote behind it, an open literal is closed. -/
theorem scan_push (h : StandsAt source.toList before (.literal quote body false) [])
    (hbefore : scan .lenient (String.ofList before) = .ok earlier) :
    scan .strict (source.push quote) =
      .ok (earlier ++ [(Lexeme.literal quote body true).token (byteLength before)]) := by
  have closed : StandsAt (source.push quote).toList before (.literal quote body true) [] := by
    rw [String.toList_push]
    exact h.prolong ⟨h.wellFormed.1, rfl⟩ (by simp [Lexeme.spelling])
  have joint : scan .strict _ = _ := closed.scan_eq_joined (fun _ => rfl) hbefore
  have nothing : scan .strict (String.ofList []) = .ok [] := scan_blank (by simp) .strict
  rw [String.ofList_toList, nothing] at joint
  rw [joint, joined, List.map_nil, List.append_nil]

/-- An open literal takes all text without its quote, and stays open. -/
theorem scan_append_open (h : StandsAt source.toList before (.literal quote body false) [])
    (hbefore : scan .lenient (String.ofList before) = .ok earlier) {more : String}
    (hmore : quote ∉ more.toList) :
    scan .strict (source ++ more) = .error [(Fault.unterminatedLiteral quote).diagnostic
      ((Lexeme.literal quote (body ++ more.toList) false).token (byteLength before)).span] := by
  obtain ⟨hq, hbody⟩ := h.wellFormed.1
  have unquoted : quote ∉ body ++ more.toList := by
    intro hmem
    rcases List.mem_append.mp hmem with old | new
    · exact hbody old
    · exact hmore new
  have longer : StandsAt (source ++ more).toList before
      (.literal quote (body ++ more.toList) false) [] := by
    rw [String.toList_append]
    exact h.prolong ⟨⟨hq, unquoted⟩, rfl⟩ (by simp [Lexeme.spelling])
  have fails := longer.scan_strict_literal hbefore
  rwa [String.ofList_toList] at fails

end StandsAt

/-- **The reported quote repairs the source**, and no text without it does. A strict scan that fails
reports one open literal, the last token of the lenient scan. With its quote at the end of the source
the strict scan succeeds: it finds the tokens of the lenient scan, the last one longer by that quote.
With any text that does not have the quote, the scan fails as before, and the literal runs on to the
new end. -/
theorem scan_repaired {source : String} {ds : List Diagnostic}
    (h : scan .strict source = .error ds) :
    ∃ quote init last,
      ds = [(Fault.unterminatedLiteral quote).diagnostic last.span] ∧
      scan .lenient source = .ok (init ++ [last]) ∧
      scan .strict (source.push quote) = .ok (init ++
        [⟨last.kind, last.text, ⟨last.span.offset, last.span.len + 1⟩⟩]) ∧
      ∀ more : String, quote ∉ more.toList →
        scan .strict (source ++ more) = .error [(Fault.unterminatedLiteral quote).diagnostic
          ⟨last.span.offset, last.span.len + byteLength more.toList⟩] := by
  obtain ⟨before, quote, body, earlier, stands, hbefore⟩ := exists_open_literal h
  have hq := stands.wellFormed.1.1
  refine ⟨quote, earlier, (Lexeme.literal quote body false).token (byteLength before),
    ?_, ?_, ?_, fun more hmore => ?_⟩
  · have fails := stands.scan_strict_literal hbefore
    rw [String.ofList_toList, h] at fails
    exact Except.error.inj fails
  · exact stands.scan_lenient_eq hbefore (scan_blank (by simp) .lenient)
  · -- the quote is one byte more
    have longer : (Lexeme.literal quote body true).size =
        (Lexeme.literal quote body false).size + 1 := by
      rw [Lexeme.size_literal hq, Lexeme.size_literal hq]
      rfl
    rw [stands.scan_push hbefore, Lexeme.token, longer]
    rfl
  · have longer : (Lexeme.literal quote (body ++ more.toList) false).size =
        (Lexeme.literal quote body false).size + byteLength more.toList := by
      rw [Lexeme.size_literal hq, Lexeme.size_literal hq, byteLength_append]
      exact Nat.add_right_comm _ _ _
    rw [stands.scan_append_open hbefore hmore, Lexeme.token, longer]
    rfl

/-- An open literal with a line feed, a `#` and a quote of the other kind in it, behind a comment
with quotes. The text that comes has another quote of that kind. -/
theorem scan_repaired_signs :
    scan .strict "#'\"\n'\"\n#é" =
        .error [(Fault.unterminatedLiteral '\'').diagnostic ⟨4, 6⟩] ∧
      scan .strict ("#'\"\n'\"\n#é".push '\'') =
        .ok [⟨.comment, "#'\"", ⟨0, 3⟩⟩, ⟨.string, "\"\n#é", ⟨4, 7⟩⟩] ∧
      scan .strict ("#'\"\n'\"\n#é" ++ "\"ß") =
        .error [(Fault.unterminatedLiteral '\'').diagnostic ⟨4, 9⟩] := by
  have normal : Reading.Normal .strict
      (.lexeme [] (.comment ['\'', '"'])
        (.unclosed ['\n'] '\'' ['\'', '"', '\n', '#', 'é'])) := by decide
  have h : scan .strict "#'\"\n'\"\n#é" =
      .error [(Fault.unterminatedLiteral '\'').diagnostic ⟨4, 6⟩] := scan_eq_of_normal normal rfl
  have normal' : Reading.Normal .lenient
      (.lexeme [] (.comment ['\'', '"'])
        (.lexeme ['\n'] (.literal '\'' ['"', '\n', '#', 'é'] false) (.done []))) := by decide
  have lenient : scan .lenient "#'\"\n'\"\n#é" =
      .ok ([⟨.comment, "#'\"", ⟨0, 3⟩⟩] ++ [⟨.string, "\"\n#é", ⟨4, 6⟩⟩]) :=
    scan_eq_of_normal normal' rfl
  obtain ⟨quote, init, last, hds, found, repaired, fails⟩ := scan_repaired h
  obtain ⟨rfl, -⟩ : '\'' = quote ∧ _ := by simpa [Fault.diagnostic] using hds
  rw [lenient] at found
  obtain ⟨rfl, hlast⟩ := List.append_inj' (Except.ok.inj found) rfl
  obtain rfl := List.singleton_inj.mp hlast
  exact ⟨h, repaired, fails "\"ß" (by decide)⟩

end Ixo
