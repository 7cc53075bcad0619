import Ixo.Proofs.Scan.Findings
import Ixo.Proofs.Slice

/-!
# The two modes

The modes part only at a literal that the end of the source leaves open. A strict reading
becomes the lenient reading of the same text when this literal is read instead of refused
(`Reading.lenient`), so the strict scan fails exactly if the last token of the lenient one is
open, and otherwise finds the same tokens (`strict_scan_agrees`). An open token can be told from
its text and its span alone (`Token.IsOpen`).
-/

set_option autoImplicit false

namespace Ixo

/-- A token whose span has one byte more than its text: the opening quote, but no closing
quote. -/
def Token.IsOpen (t : Token) : Prop :=
  t.kind = .string ∧ t.span.len = byteLength t.text.toList + 1

theorem utf8Size_of_isQuote {c : Char} (h : isQuote c = true) : c.utf8Size = 1 :=
  of_contains (p := fun d => d.utf8Size = 1) h (by decide)

/-- Only words, of whatever kind, and literals have their kind from elsewhere than their form. -/
theorem Kind.ofWord_ne_string (w : String) : Kind.ofWord w ≠ .string := by
  rcases Kind.ofWord_cases w with h | h | h <;> rw [h] <;> decide

theorem Lexeme.isOpen_token_iff {l : Lexeme} (shape : l.HasShape) (offset : Nat) :
    (l.token offset).IsOpen ↔ l.isClosed = false := by
  have text : (l.token offset).text.toList = l.text := String.toList_ofList
  rw [Token.IsOpen, text]
  cases l with
  | literal quote body closed =>
      have size := utf8Size_of_isQuote shape.1
      cases closed <;>
        simp [token, kind, Lexeme.size, spelling, Lexeme.text, isClosed, size, Nat.add_comm]
  | word cs => simp [token, kind, isClosed, Kind.ofWord_ne_string]
  | bracket c =>
      simp only [token, kind, isClosed]
      repeat' split
      all_goals simp
  | comment _ | number _ | punctuation _ | operator _ | unknown _ =>
      simp [token, kind, isClosed]

/-! ## From strict to lenient -/

namespace Reading

/-- Reads an open literal at the end instead of refusing it. -/
def lenient : Reading → Reading
  | done gap => done gap
  | lexeme gap l next => lexeme gap l next.lenient
  | unclosed gap quote literal => lexeme gap (.literal quote literal.tail false) (done [])
  | unmatched gap found next => unmatched gap found next.lenient

theorem spelling_lenient {mode : Mode} {r : Reading} (normal : r.Normal mode) :
    r.lenient.spelling = r.spelling := by
  induction r with
  | done gap => rfl
  | lexeme gap l next ih => rw [lenient, spelling, spelling, ih normal.2.2.2.2]
  | unclosed gap quote literal =>
      obtain ⟨-, -, -, body, rfl, -⟩ := normal
      simp [lenient, spelling, Lexeme.spelling]
  | unmatched gap found next => exact absurd normal id

theorem normal_lenient {mode : Mode} {r : Reading} (normal : r.Normal mode) :
    r.lenient.Normal .lenient := by
  induction r with
  | done gap => exact normal
  | lexeme gap l next ih =>
      obtain ⟨hgap, wf, ends, -, hnext⟩ := normal
      refine ⟨hgap, wf, ?_, by simp, ih hnext⟩
      rw [spelling_lenient hnext]
      exact ends
  | unclosed gap quote literal =>
      obtain ⟨hgap, -, hq, body, rfl, hbody⟩ := normal
      exact ⟨hgap, ⟨⟨hq, hbody⟩, rfl⟩, stops_nil _, by simp, by simp [Normal]⟩
  | unmatched gap found next => exact absurd normal id

/-- Where a strict reading finds nothing wrong, it is lenient already. Otherwise it found every
token but the last, and refused a literal that runs to the end. -/
theorem strict_cases {mode : Mode} {r : Reading} (normal : r.Normal mode) (offset : Nat) :
    (r.diagnostics offset = [] ∧ r.lenient = r) ∨
      ∃ before quote body, r.spelling = before ++ quote :: body ∧ isQuote quote = true ∧
        quote ∉ body ∧
        r.diagnostics offset = [(Fault.unterminatedLiteral quote).diagnostic
          ⟨offset + byteLength before, byteLength (quote :: body)⟩] ∧
        r.lenient.tokens offset = r.tokens offset ++
          [(Lexeme.literal quote body false).token (offset + byteLength before)] := by
  induction r generalizing offset with
  | done gap => exact Or.inl ⟨rfl, rfl⟩
  | lexeme gap l next ih =>
      rcases ih normal.2.2.2.2 (offset + byteLength gap + byteLength l.spelling) with
        ⟨sound, same⟩ | ⟨before, quote, body, hnext, hq, hbody, hdiagnostics, htokens⟩
      · exact Or.inl ⟨sound, by rw [lenient, same]⟩
      · have start : offset + byteLength gap + byteLength l.spelling + byteLength before
            = offset + byteLength (gap ++ l.spelling ++ before) := by
          simp only [byteLength_append, Nat.add_assoc]
        rw [start] at hdiagnostics htokens
        refine Or.inr ⟨gap ++ l.spelling ++ before, quote, body, ?_, hq, hbody, hdiagnostics, ?_⟩
        · rw [spelling, hnext]
          simp only [List.append_assoc]
        · rw [lenient, tokens_lexeme, tokens_lexeme, htokens, List.cons_append]
  | unclosed gap quote literal =>
      obtain ⟨-, -, hq, body, rfl, hbody⟩ := normal
      exact Or.inr ⟨gap, quote, body, rfl, hq, hbody, rfl, rfl⟩
  | unmatched gap found next => exact absurd normal id

/-- No token of a strict reading is open. -/
theorem not_isOpen_of_mem_tokens {r : Reading} {t : Token} (normal : r.Normal .strict)
    (ht : t ∈ r.tokens 0) : ¬ t.IsOpen := by
  obtain ⟨before, l, after, -, rfl, wf, -, closed⟩ := r.exists_lexeme_of_mem_tokens normal ht
  rw [Lexeme.isOpen_token_iff wf.1, closed rfl]
  decide

end Reading

/-- A scan finds one thing wrong at most, and this is an open literal. -/
theorem scan_error {mode : Mode} {source : String} {ds : List Diagnostic}
    (h : scan mode source = .error ds) :
    ∃ quote span, ds = [(Fault.unterminatedLiteral quote).diagnostic span] := by
  obtain ⟨r, normal, hsource⟩ := Reading.exists_normal mode source.toList
  rw [scan_eq_of_normal normal hsource] at h
  rcases Reading.diagnostics_normal normal 0 with sound | ⟨quote, span, hds⟩
  · rw [sound] at h
    cases h
  · rw [hds] at h
    cases h
    exact ⟨quote, span, rfl⟩

/-- The lenient scan reads the open literal that a strict reading refused. -/
theorem scan_lenient {mode : Mode} {source : String} {r : Reading} (normal : r.Normal mode)
    (hsource : r.spelling = source.toList) :
    scan .lenient source = .ok (r.lenient.tokens 0) := by
  have hlenient := Reading.normal_lenient normal
  have hspelling := (Reading.spelling_lenient normal).trans hsource
  rw [scan_eq_of_normal hlenient hspelling, Reading.diagnostics_lenient hlenient]

/-- Either the strict scan finds the tokens of the lenient one, and the last of them is not open,
or it fails at the last of them, which is. -/
theorem scan_cases (source : String) :
    ∃ tokens, scan .lenient source = .ok tokens ∧
      ((scan .strict source = .ok tokens ∧ ∀ t ∈ tokens.getLast?, ¬ t.IsOpen) ∨
        ∃ t before quote body, tokens.getLast? = some t ∧ t.IsOpen ∧
          t.span.Cuts source.toList before (quote :: body) [] ∧ isQuote quote = true ∧
          quote ∉ body ∧
          scan .strict source = .error [(Fault.unterminatedLiteral quote).diagnostic t.span]) := by
  obtain ⟨r, normal, hsource⟩ := Reading.exists_normal .strict source.toList
  have strict := scan_eq_of_normal normal hsource
  refine ⟨r.lenient.tokens 0, scan_lenient normal hsource, ?_⟩
  rcases Reading.strict_cases normal 0 with
    ⟨sound, same⟩ | ⟨before, quote, body, hspelling, hq, hbody, hdiagnostics, htokens⟩
  · -- nothing is open, and the readings are the same
    left
    rw [sound] at strict
    rw [same]
    refine ⟨strict, ?_⟩
    intro t ht
    exact Reading.not_isOpen_of_mem_tokens normal (List.mem_of_getLast? ht)
  · -- the last lenient token is the literal that the strict reading refused
    right
    rw [hdiagnostics] at strict
    have shape : (Lexeme.literal quote body false).HasShape := ⟨hq, hbody⟩
    have hspan : ((Lexeme.literal quote body false).token (0 + byteLength before)).span
        = ⟨0 + byteLength before, byteLength (quote :: body)⟩ := by
      simp [Lexeme.token, Lexeme.size, Lexeme.spelling]
    refine ⟨(Lexeme.literal quote body false).token (0 + byteLength before), before, quote, body,
      ?_, (Lexeme.isOpen_token_iff shape _).mpr rfl, ?_, hq, hbody, ?_⟩
    · rw [htokens, List.getLast?_concat]
    · rw [hspan]
      exact ⟨by rw [List.append_nil, ← hspelling, hsource], (Nat.zero_add _).symm, rfl⟩
    · rw [hspan]
      exact strict

/-- **The strict scan fails only at an open literal, and otherwise agrees.** The lenient scan
always succeeds. The strict scan fails exactly if the last lenient token is open; it then finds
one thing wrong, at the span of this token, which starts with its quote and runs to the end of
the source. Otherwise it finds the same tokens. In no mode a scan finds a character that no rule
reads, or more than one thing wrong. -/
theorem strict_scan_agrees (source : String) :
    ∃ tokens, scan .lenient source = .ok tokens ∧
      ((∃ ds, scan .strict source = .error ds) ↔ ∃ t ∈ tokens.getLast?, t.IsOpen) ∧
      (∀ t ∈ tokens.getLast?, t.IsOpen → ∃ before quote body,
        t.span.Cuts source.toList before (quote :: body) [] ∧ isQuote quote = true ∧
          quote ∉ body ∧
          scan .strict source = .error [(Fault.unterminatedLiteral quote).diagnostic t.span]) ∧
      ((∀ t ∈ tokens.getLast?, ¬ t.IsOpen) → scan .strict source = .ok tokens) ∧
      ∀ mode ds, scan mode source = .error ds →
        ∃ d, ds = [d] ∧ ∀ c, d.fault ≠ .unmatched c := by
  have single : ∀ mode ds, scan mode source = .error ds →
      ∃ d, ds = [d] ∧ ∀ c, d.fault ≠ .unmatched c := by
    intro mode ds h
    obtain ⟨quote, span, rfl⟩ := scan_error h
    exact ⟨_, rfl, fun c hc => by cases hc⟩
  obtain ⟨tokens, lenient, ⟨strict, closed⟩ |
    ⟨t, before, quote, body, hlast, hopen, hcuts, hq, hbody, strict⟩⟩ := scan_cases source
  · refine ⟨tokens, lenient, ?_, ?_, fun _ => strict, single⟩
    · constructor
      · rintro ⟨ds, h⟩
        rw [strict] at h
        cases h
      · rintro ⟨t, ht, hopen⟩
        exact absurd hopen (closed t ht)
    · intro t ht hopen
      exact absurd hopen (closed t ht)
  · refine ⟨tokens, lenient, ?_, ?_, ?_, single⟩
    · exact ⟨fun _ => ⟨t, hlast, hopen⟩, fun _ => ⟨_, strict⟩⟩
    · intro u hu _
      rw [hlast] at hu
      obtain rfl := Option.some.inj hu
      exact ⟨before, quote, body, hcuts, hq, hbody, strict⟩
    · intro closed
      exact absurd hopen (closed t hlast)

end Ixo
