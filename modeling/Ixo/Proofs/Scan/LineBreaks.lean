import Ixo.Proofs.Scan.Opacity
import Ixo.Proofs.Text.LineBreaks

/-!
# Line breaks of either kind

It does not matter to a scan whether a source breaks its lines by a line feed alone or by a carriage
return and a line feed. A reading is made uniform piece by piece (`Reading.uniform`): gaps and the
bodies of literals lose the carriage returns inside them, and a comment loses the one it may end in,
as its line break stands behind it. What comes out is the reading of the uniform source, so the two
scans go side by side, each thing found at the place that the bytes taken out leave it
(`scan_uniform`).
-/

set_option autoImplicit false

namespace Ixo

/-! ## The two sides -/

/-- The span `t` marks in the uniform text what `s` marks in the source, where `s` cuts the source
into these parts: it has as many bytes less as there are carriage returns taken out before it and
inside it. -/
structure Span.UniformAt (before slice after : List Char) (s t : Span) : Prop where
  offset_eq : t.offset + breakReturns (slice ++ after) before = s.offset
  len_eq : t.len + breakReturns after slice = s.len

/-- The span `t` marks in the uniform text what `s` marks in the source. -/
def Span.Uniform (source : List Char) (s t : Span) : Prop :=
  ∃ before slice after, s.Cuts source before slice after ∧ s.UniformAt before slice after t

/-- The text of a token in the uniform source, where `after` stands behind the token. The text of a
literal is made uniform, and a comment loses a carriage return at its end if a line feed follows. -/
def Token.uniformText (after : List Char) (t : Token) : List Char :=
  if t.kind = .string then uniform [] t.text.toList
  else if t.kind = .comment ∧ t.text.toList.getLast? = some '\r' ∧ after.head? = some '\n' then
    t.text.toList.dropLast
  else t.text.toList

/-- The token `u` of the uniform source stands for the token `t` of the source. -/
def Token.Uniform (source : List Char) (t u : Token) : Prop :=
  ∃ before slice after, t.span.Cuts source before slice after ∧
    t.span.UniformAt before slice after u.span ∧ u.kind = t.kind ∧
    u.text.toList = t.uniformText after

/-- The diagnostic `e` of the uniform source stands for the diagnostic `d` of the source. -/
structure Diagnostic.Uniform (source : List Char) (d e : Diagnostic) : Prop where
  fault_eq : e.fault = d.fault
  source_eq : e.source = d.source
  span : d.span.Uniform source e.span

/-- What is found in the uniform source stands for what is found in the source. -/
inductive Finding.Uniform (source : List Char) : Finding → Finding → Prop where
  | token {t u : Token} (h : t.Uniform source u) : Uniform source (.token t) (.token u)
  | diagnostic {d e : Diagnostic} (h : d.Uniform source e) :
    Uniform source (.diagnostic d) (.diagnostic e)

/-- Where a text and its slice are made uniform, so is the span of the slice. -/
theorem Span.uniformAt_uniform (before slice after : List Char) :
    Span.UniformAt before slice after ⟨byteLength before, byteLength slice⟩
      ⟨byteLength (uniform (slice ++ after) before), byteLength (uniform after slice)⟩ :=
  ⟨byteLength_uniform _ _, byteLength_uniform _ _⟩

/-! ## Lexemes -/

namespace Lexeme

/-- The lexeme of the uniform source. -/
def uniform (rest : List Char) : Lexeme → Lexeme
  | comment body => comment (Ixo.uniform rest body)
  | literal quote body closed => literal quote (Ixo.uniform [] body) closed
  | l => l

variable {l : Lexeme} {rest : List Char}

theorem kind_uniform (rest : List Char) (l : Lexeme) : (l.uniform rest).kind = l.kind := by
  cases l <;> rfl

theorem absorbs_uniform (rest : List Char) (l : Lexeme) :
    (l.uniform rest).absorbs = l.absorbs := by
  cases l <;> rfl

theorem isClosed_uniform (rest : List Char) (l : Lexeme) :
    (l.uniform rest).isClosed = l.isClosed := by
  cases l <;> rfl

theorem wellFormed_uniform (wf : l.WellFormed) (rest : List Char) :
    (l.uniform rest).WellFormed := by
  cases l with
  | comment body => exact ⟨fun h => wf.1 ((sublist_uniform rest body).subset h), rfl⟩
  | literal quote body closed =>
      exact ⟨⟨wf.1.1, fun h => wf.1.2 ((sublist_uniform [] body).subset h)⟩, rfl⟩
  | _ => exact wf

/-- A line feed ends every lexeme that a carriage return ends. -/
theorem absorbs_lineFeed (h : l.absorbs '\r' = false) : l.absorbs '\n' = false := by
  cases l with
  | literal quote body closed => exact h
  | _ => rfl

theorem EndsBefore.uniform (ends : l.EndsBefore rest) :
    (l.uniform rest).EndsBefore (Ixo.uniform [] rest) := by
  intro c hc
  rw [absorbs_uniform]
  rcases head?_uniform rest with same | ⟨ret, feed⟩
  · rw [same] at hc
    exact ends c hc
  · rw [feed] at hc
    obtain rfl := Option.some.inj hc
    exact absorbs_lineFeed (ends '\r' ret)

/-- Lexemes other than comments and literals have no blanks, so they stay as they are. -/
theorem uniform_spelling_eq_self (wf : l.WellFormed) (hc : l.rule ≠ .comment)
    (hl : l.rule ≠ .literal) : Ixo.uniform rest l.spelling = l.spelling :=
  uniform_eq_self fun h => absurd (isBlank_eq_false_of_mem_spelling wf hc hl _ h) (by decide)

/-- What a lexeme of the uniform source is spelled with. -/
theorem spelling_uniform (wf : l.WellFormed) (ends : l.EndsBefore rest) :
    (l.uniform rest).spelling = Ixo.uniform rest l.spelling := by
  cases l with
  | comment body => exact (uniform_cons (by decide)).symm
  | literal quote body closed =>
      have noReturn : quote ≠ '\r' :=
        of_contains (p := fun d => d ≠ '\r') wf.1.1 (by decide)
      have noFeed : quote ≠ '\n' :=
        of_contains (p := fun d => d ≠ '\n') wf.1.1 (by decide)
      cases closed with
      | true =>
          -- the closing quote stands behind the body, and it is no line feed
          have alone : Ixo.uniform (quote :: rest) body = Ixo.uniform [] body :=
            uniform_congr (by simp [noFeed])
          simp [uniform, spelling, uniform_cons noReturn, uniform_append, alone]
      | false =>
          -- nothing follows an open literal
          have nothing : rest = [] := by
            cases rest with
            | nil => rfl
            | cons c cs => cases stops_cons.mp ends
          simp [uniform, spelling, uniform_cons noReturn, nothing]
  | _ =>
      refine (uniform_spelling_eq_self wf ?_ ?_).symm
      all_goals
        intro h
        cases h

/-- The text of a lexeme of the uniform source. -/
theorem text_uniform (wf : l.WellFormed) (offset : Nat) :
    (l.uniform rest).text = (l.token offset).uniformText rest := by
  have text : (l.token offset).text.toList = l.text := String.toList_ofList
  have kind : (l.token offset).kind = l.kind := rfl
  simp only [Token.uniformText, text, kind, kind_eq_string_iff, kind_eq_comment_iff]
  cases l with
  | comment body =>
      have noFeed : '\n' ∉ '#' :: body := fun h => wf.1 (by simpa using h)
      have h : Ixo.uniform rest ('#' :: body) = _ := uniform_of_not_mem noFeed
      rw [uniform_cons (by decide)] at h
      simpa [uniform, Lexeme.text, spelling, rule] using h
  | literal quote body closed => rfl
  | _ => rfl

end Lexeme

/-! ## Readings -/

namespace Reading

/-- The reading of the uniform source. -/
def uniform : Reading → Reading
  | done gap => done (Ixo.uniform [] gap)
  | lexeme gap l next =>
    lexeme (Ixo.uniform (l.spelling ++ next.spelling) gap) (l.uniform next.spelling) next.uniform
  | unclosed gap quote literal =>
    unclosed (Ixo.uniform literal gap) quote (Ixo.uniform [] literal)
  | unmatched gap found next =>
    unmatched (Ixo.uniform (found :: next.spelling) gap) found next.uniform

variable {mode : Mode} {r : Reading}

theorem spelling_uniform (normal : r.Normal mode) :
    r.uniform.spelling = Ixo.uniform [] r.spelling := by
  induction r with
  | done gap => rfl
  | lexeme gap l next ih =>
      obtain ⟨-, wf, ends, -, hnext⟩ := normal
      rw [uniform, spelling, spelling, ih hnext, l.spelling_uniform wf ends, List.append_assoc,
        List.append_assoc, uniform_append, uniform_append, List.append_nil, List.append_nil]
  | unclosed gap quote literal => rw [uniform, spelling, spelling, uniform_append, List.append_nil]
  | unmatched gap found next => exact absurd normal id

theorem normal_uniform (normal : r.Normal mode) : r.uniform.Normal mode := by
  have blank {gap rest : List Char} (hgap : ∀ c ∈ gap, isBlank c = true) :
      ∀ c ∈ Ixo.uniform rest gap, isBlank c = true :=
    fun c hc => hgap c ((sublist_uniform rest gap).subset hc)
  induction r with
  | done gap => exact blank normal
  | lexeme gap l next ih =>
      obtain ⟨hgap, wf, ends, closed, hnext⟩ := normal
      refine ⟨blank hgap, l.wellFormed_uniform wf _, ?_, ?_, ih hnext⟩
      · rw [spelling_uniform hnext]
        exact ends.uniform
      · rw [Lexeme.isClosed_uniform]
        exact closed
  | unclosed gap quote literal =>
      obtain ⟨hgap, strict, hq, body, rfl, hbody⟩ := normal
      have noReturn : quote ≠ '\r' := of_contains (p := fun d => d ≠ '\r') hq (by decide)
      exact ⟨blank hgap, strict, hq, Ixo.uniform [] body, uniform_cons noReturn,
        fun h => hbody ((sublist_uniform [] body).subset h)⟩
  | unmatched gap found next => exact absurd normal id

/-- What is found in the uniform source stands for what is found in the source, where `before` has
been read already. -/
theorem forall₂_findings_uniform (normal : r.Normal mode) (before : List Char) :
    List.Forall₂ (Finding.Uniform (before ++ r.spelling)) (r.findings (byteLength before))
      (r.uniform.findings (byteLength (Ixo.uniform r.spelling before))) := by
  induction r generalizing before with
  | done gap => exact List.Forall₂.nil
  | lexeme gap l next ih =>
      obtain ⟨-, wf, ends, -, hnext⟩ := normal
      have rest := ih hnext (before ++ gap ++ l.spelling)
      have here := Span.uniformAt_uniform (before ++ gap) l.spelling next.spelling
      simp only [uniform, findings, spelling, Lexeme.size, l.spelling_uniform wf ends,
        uniform_append, byteLength_append, List.append_assoc, Nat.add_assoc] at rest here ⊢
      rw [← l.spelling_uniform wf ends] at here
      refine List.Forall₂.cons (.token ⟨before ++ gap, l.spelling, next.spelling,
        ⟨?_, byteLength_append _ _, rfl⟩, here, l.kind_uniform _, ?_⟩) rest
      · simp only [List.append_assoc]
      · exact String.toList_ofList.trans (l.text_uniform wf _)
  | unclosed gap quote literal =>
      have here := Span.uniformAt_uniform (before ++ gap) literal []
      simp only [uniform, findings, spelling, uniform_append, byteLength_append,
        List.append_nil] at here ⊢
      refine List.Forall₂.cons (.diagnostic ⟨rfl, rfl, before ++ gap, literal, [],
        ⟨?_, byteLength_append _ _, rfl⟩, here⟩) List.Forall₂.nil
      simp only [List.append_assoc, List.append_nil]
  | unmatched gap found next => exact absurd normal id

end Reading

/-! ## Scans -/

/-- **It does not matter which line breaks a source has.** The uniform source has as many tokens as
the source, of the same kinds and in the same order. The text of a literal is made uniform, a
comment loses the carriage return of the line break behind it, and the other texts are the same;
every span starts earlier by the number of carriage returns taken out before it, and is shorter by
the number of those taken out inside it. The strict scan fails on both sources or on none, at the
same quote. -/
theorem scan_uniform (source : String) :
    ∃ tokens tokens', scan .lenient source = .ok tokens ∧
      scan .lenient (String.ofList (uniform [] source.toList)) = .ok tokens' ∧
      List.Forall₂ (Token.Uniform source.toList) tokens tokens' ∧
      FailAlike (Span.Uniform source.toList) (scan .strict source)
        (scan .strict (String.ofList (uniform [] source.toList))) := by
  -- in either mode, the reading of the uniform source is the uniform reading
  have both (mode : Mode) : ∃ r : Reading, r.Normal mode ∧ r.uniform.Normal mode ∧
      r.spelling = source.toList ∧
      r.uniform.spelling = (String.ofList (uniform [] source.toList)).toList ∧
      List.Forall₂ (Finding.Uniform source.toList) (r.findings 0) (r.uniform.findings 0) := by
    obtain ⟨r, normal, hsource⟩ := Reading.exists_normal mode source.toList
    refine ⟨r, normal, Reading.normal_uniform normal, hsource, ?_, ?_⟩
    · rw [Reading.spelling_uniform normal, hsource, String.toList_ofList]
    · rw [← hsource]
      exact Reading.forall₂_findings_uniform normal []
  obtain ⟨r, normal, normal', hsource, hsource', found⟩ := both .lenient
  obtain ⟨s, strict, strict', ssource, ssource', sfound⟩ := both .strict
  have tokens : List.Forall₂ (Token.Uniform source.toList) (r.tokens 0) (r.uniform.tokens 0) := by
    refine List.rel_filterMap (fun f g hfg => ?_) found
    cases hfg with
    | token h => exact Option.Rel.some h
    | diagnostic h => exact Option.Rel.none
  have diagnostics : List.Forall₂ (Diagnostic.Uniform source.toList) (s.diagnostics 0)
      (s.uniform.diagnostics 0) := by
    refine List.rel_filterMap (fun f g hfg => ?_) sfound
    cases hfg with
    | token h => exact Option.Rel.none
    | diagnostic h => exact Option.Rel.some h
  refine ⟨r.tokens 0, r.uniform.tokens 0, scan_lenient_of_normal normal hsource,
    scan_lenient_of_normal normal' hsource', tokens, ?_⟩
  rw [scan_eq_of_normal strict ssource, scan_eq_of_normal strict' ssource']
  rcases Reading.diagnostics_normal strict 0 with sound | ⟨quote, span, failed⟩
  · rw [sound] at diagnostics
    rw [sound, List.forall₂_nil_left_iff.mp diagnostics]
    trivial
  · rw [failed] at diagnostics
    obtain ⟨e, es, he, hes, failed'⟩ := List.forall₂_cons_left_iff.mp diagnostics
    obtain rfl := List.forall₂_nil_left_iff.mp hes
    rw [failed, failed']
    refine ⟨quote, span, e.span, rfl, ?_, he.span⟩
    cases e
    cases he.fault_eq
    cases he.source_eq
    rfl

end Ixo
