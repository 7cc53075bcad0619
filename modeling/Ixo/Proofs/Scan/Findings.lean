import Ixo.Proofs.Reading.Append
import Ixo.Scan

/-!
# What a scan finds

A scan is what the reading of its source found. This module says it for each step of a reading,
for tokens and diagnostics apart, and carries the facts about lexemes over to tokens: a token of
a normal reading stands for a well-formed lexeme that is as long as it can be, and splits the
reading there (`Reading.exists_spelling_eq_of_tokens_eq`). A lenient scan finds nothing wrong, and a strict one at
most one open literal, at its end (`Reading.diagnostics_lenient`, `Reading.diagnostics_normal`).
-/

set_option autoImplicit false

namespace Ixo

namespace Reading

/-- The tokens of a reading whose first character stands at `offset`. -/
def tokens (offset : Nat) (r : Reading) : List Token :=
  (r.findings offset).filterMap Finding.token?

/-- What is wrong with a text whose first character stands at `offset`. -/
def diagnostics (offset : Nat) (r : Reading) : List Diagnostic :=
  (r.findings offset).filterMap Finding.diagnostic?

section

variable (offset : Nat) (gap literal : List Char) (quote : Char) (l : Lexeme) (next : Reading)

@[simp] theorem tokens_done : (done gap).tokens offset = [] := rfl

@[simp] theorem diagnostics_done : (done gap).diagnostics offset = [] := rfl

@[simp] theorem tokens_lexeme :
    (lexeme gap l next).tokens offset =
      l.token (offset + byteLength gap) ::
        next.tokens (offset + byteLength gap + byteLength l.spelling) := rfl

@[simp] theorem diagnostics_lexeme :
    (lexeme gap l next).diagnostics offset =
      next.diagnostics (offset + byteLength gap + byteLength l.spelling) := rfl

@[simp] theorem tokens_unclosed : (unclosed gap quote literal).tokens offset = [] := rfl

@[simp] theorem diagnostics_unclosed :
    (unclosed gap quote literal).diagnostics offset =
      [(Fault.unterminatedLiteral quote).diagnostic
        ⟨offset + byteLength gap, byteLength literal⟩] := rfl

end

/-- A token of a normal reading splits it at a well-formed lexeme, as long as it can be in front of
what follows, and closed if the mode asks for it. The tokens before it are those of a reading that
ends where the lexeme starts. -/
theorem exists_spelling_eq_of_tokens_eq {mode : Mode} {r : Reading} {offset : Nat}
    {earlier later : List Token} {t : Token} (normal : r.Normal mode)
    (h : r.tokens offset = earlier ++ t :: later) :
    ∃ (s : Reading) (l : Lexeme) (next : Reading),
      r.spelling = s.spelling ++ (l.spelling ++ next.spelling) ∧ s.Normal mode ∧
        s.EndsBefore (l.spelling ++ next.spelling) ∧ l.WellFormed ∧
        l.EndsBefore next.spelling ∧ (mode = .strict → l.isClosed = true) ∧ next.Normal mode ∧
        s.tokens offset = earlier ∧ t = l.token (offset + byteLength s.spelling) ∧
        later = next.tokens (offset + (byteLength s.spelling + l.size)) := by
  induction r generalizing offset earlier with
  | done gap => simp at h
  | unclosed gap quote literal => simp at h
  | unmatched gap found next => exact absurd normal id
  | lexeme gap l next ih =>
      obtain ⟨hgap, wf, ends, closed, hnext⟩ := normal
      rw [tokens_lexeme] at h
      cases earlier with
      | nil =>
          obtain ⟨rfl, rfl⟩ := List.cons.inj h
          refine ⟨done gap, l, next, ?_, hgap, trivial, wf, ends, closed, hnext, rfl, rfl, ?_⟩
          · rw [spelling, spelling, List.append_assoc]
          · rw [spelling, Lexeme.size, Nat.add_assoc]
      | cons e es =>
          -- the token is one of what is left behind the first lexeme
          obtain ⟨rfl, hrest⟩ := List.cons.inj h
          obtain ⟨s, m, u, hspelling, hs, hends, hm, mends, mclosed, hu, htokens, ht, hlater⟩ :=
            ih hnext hrest
          have start : offset + byteLength (lexeme gap l s).spelling =
              offset + byteLength gap + byteLength l.spelling + byteLength s.spelling := by
            simp only [spelling, byteLength_append, Nat.add_assoc]
          rw [hspelling] at ends
          refine ⟨lexeme gap l s, m, u, ?_, ⟨hgap, wf, (stops_append_iff.mp ends).1, closed, hs⟩,
            ⟨ends, hends⟩, hm, mends, mclosed, hu, ?_, ?_, ?_⟩
          · rw [spelling, spelling, hspelling, List.append_assoc, List.append_assoc,
              List.append_assoc]
          · rw [tokens_lexeme, htokens]
          · rw [ht, start]
          · rw [hlater, ← Nat.add_assoc, ← Nat.add_assoc, start]

/-- A token of a normal reading stands for a lexeme between two texts. -/
theorem exists_lexeme_of_mem_tokens {mode : Mode} {r : Reading} {offset : Nat} {t : Token}
    (normal : r.Normal mode) (ht : t ∈ r.tokens offset) :
    ∃ (before : List Char) (l : Lexeme) (after : List Char),
      before ++ l.spelling ++ after = r.spelling ∧
      t = l.token (offset + byteLength before) ∧ l.WellFormed ∧ l.EndsBefore after ∧
      (mode = .strict → l.isClosed = true) := by
  obtain ⟨earlier, later, h⟩ := List.append_of_mem ht
  obtain ⟨s, l, next, hspelling, -, -, wf, ends, closed, -, -, rfl, -⟩ :=
    exists_spelling_eq_of_tokens_eq normal h
  exact ⟨s.spelling, l, next.spelling, by rw [hspelling, List.append_assoc], rfl, wf, ends, closed⟩

theorem diagnostics_lenient {r : Reading} (normal : r.Normal .lenient) (offset : Nat) :
    r.diagnostics offset = [] := by
  induction r generalizing offset with
  | done gap => rfl
  | lexeme gap l next ih => exact ih normal.2.2.2.2 _
  | unclosed gap quote literal => cases normal.2.1
  | unmatched gap found next => exact absurd normal id

/-- A normal reading finds one thing wrong at most, a literal that is open. -/
theorem diagnostics_normal {mode : Mode} {r : Reading} (normal : r.Normal mode) (offset : Nat) :
    r.diagnostics offset = [] ∨
      ∃ quote span, r.diagnostics offset = [(Fault.unterminatedLiteral quote).diagnostic span] := by
  induction r generalizing offset with
  | done gap => exact Or.inl rfl
  | lexeme gap l next ih => exact ih normal.2.2.2.2 _
  | unclosed gap quote literal => exact Or.inr ⟨quote, _, rfl⟩
  | unmatched gap found next => exact absurd normal id

end Reading

/-! ## Scans are readings -/

theorem Scan.tokens_of (mode : Mode) (source : String) :
    (Scan.of mode source).tokens = (Reading.of mode Rule.inOrder source.toList).tokens 0 := rfl

theorem Scan.diagnostics_of (mode : Mode) (source : String) :
    (Scan.of mode source).diagnostics =
      (Reading.of mode Rule.inOrder source.toList).diagnostics 0 := rfl

/-- A scan of a text is told by any normal reading that spells it. -/
theorem scan_eq_of_normal {mode : Mode} {source : String} {r : Reading} (normal : r.Normal mode)
    (hsource : r.spelling = source.toList) :
    scan mode source =
      match r.diagnostics 0 with
      | [] => .ok (r.tokens 0)
      | ds => .error ds := by
  have hr : Reading.of mode Rule.inOrder source.toList = r :=
    Reading.of_eq_iff.mpr ⟨hsource, normal⟩
  have hdiagnostics := Scan.diagnostics_of mode source
  have htokens := Scan.tokens_of mode source
  rw [hr] at hdiagnostics htokens
  rw [scan, Scan.outcome, htokens]
  cases hds : r.diagnostics 0 with
  | nil => simp only [hdiagnostics, hds]
  | cons d ds => simp only [hdiagnostics, hds]

/-- A lenient scan finds nothing wrong. -/
theorem scan_lenient_of_normal {source : String} {r : Reading} (normal : r.Normal .lenient)
    (hsource : r.spelling = source.toList) : scan .lenient source = .ok (r.tokens 0) := by
  rw [scan_eq_of_normal normal hsource, Reading.diagnostics_lenient normal]

/-- A scan that succeeds is a normal reading of its source that found nothing wrong. -/
theorem scan_eq_ok_iff {mode : Mode} {source : String} {tokens : List Token} :
    scan mode source = .ok tokens ↔
      ∃ r : Reading, r.Normal mode ∧ r.spelling = source.toList ∧ r.diagnostics 0 = [] ∧
        r.tokens 0 = tokens := by
  constructor
  · intro h
    have normal := Reading.normal_of mode source.toList
    have hsource := Reading.spelling_of mode Rule.inOrder source.toList
    refine ⟨_, normal, hsource, ?_⟩
    rw [scan_eq_of_normal normal hsource] at h
    split at h
    · next hds => exact ⟨hds, Except.ok.inj h⟩
    · cases h
  · rintro ⟨r, normal, hsource, hds, rfl⟩
    rw [scan_eq_of_normal normal hsource, hds]

/-! ## Blank sources -/

/-- A blank source has no tokens. -/
theorem scan_blank {source : String} (blank : ∀ c ∈ source.toList, isBlank c = true)
    (mode : Mode) : scan mode source = .ok [] := by
  have normal : (Reading.done source.toList).Normal mode := blank
  exact scan_eq_of_normal normal rfl

/-- A source without tokens is blank. -/
theorem blank_of_scan_eq_nil {source : String} (h : scan .lenient source = .ok []) :
    ∀ c ∈ source.toList, isBlank c = true := by
  obtain ⟨r, normal, hsource, -, htokens⟩ := scan_eq_ok_iff.mp h
  rw [← hsource]
  cases r with
  | done gap => exact normal
  | lexeme gap l next => cases htokens
  | unclosed gap quote literal => cases normal.2.1
  | unmatched gap found next => exact absurd normal id

end Ixo
