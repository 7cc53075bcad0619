import Ixo.Proofs.Lexeme.Munch
import Ixo.Reading

/-!
# Normal readings

A reading is *normal* if its gaps are blank, its lexemes are well formed, each as long as it can
be in front of what follows, and a literal is open only as the mode allows. The rules in order
make normal readings (`Reading.normal_of`), and a text has no other normal reading:
`Reading.of_spelling` reads back what a normal reading spells. So a statement about what is read
from a text is one about normal readings with this spelling, and no statement has to run the
reader.
-/

set_option autoImplicit false

namespace Ixo

namespace Reading

/-- The readings that the rules in order make. -/
def Normal (mode : Mode) : Reading → Prop
  | done gap => ∀ c ∈ gap, isBlank c = true
  | lexeme gap l next =>
    (∀ c ∈ gap, isBlank c = true) ∧ l.WellFormed ∧ l.EndsBefore next.spelling ∧
      (mode = .strict → l.isClosed = true) ∧ next.Normal mode
  | unclosed gap quote literal =>
    (∀ c ∈ gap, isBlank c = true) ∧ mode = .strict ∧ isQuote quote = true ∧
      ∃ body, literal = quote :: body ∧ quote ∉ body
  | unmatched .. => False

instance decidableNormal (mode : Mode) : (r : Reading) → Decidable (r.Normal mode)
  | done gap => decidable_of_iff (gap.all isBlank = true) List.all_eq_true
  | lexeme gap l next =>
    have := decidableNormal mode next
    decidable_of_iff
      (gap.all isBlank = true ∧ l.WellFormed ∧ l.EndsBefore next.spelling ∧
        (mode = .strict → l.isClosed = true) ∧ next.Normal mode)
      (by rw [List.all_eq_true, Normal])
  | unclosed gap quote [] => isFalse (by simp [Normal])
  | unclosed gap quote (c :: cs) =>
    decidable_of_iff
      (gap.all isBlank = true ∧ mode = .strict ∧ isQuote quote = true ∧ c = quote ∧ quote ∉ cs)
      (by simp [Normal, and_assoc])
  | unmatched .. => inferInstanceAs (Decidable False)

/-! ## One step of a reading -/

theorem isBlank_of_mem_takeWhile (input : List Char) :
    ∀ c ∈ input.takeWhile isBlank, isBlank c = true :=
  List.all_eq_true.mp List.all_takeWhile

/-- Behind the gap stands no blank. -/
theorem stops_of_dropWhile_eq {input rest : List Char} (h : input.dropWhile isBlank = rest) :
    Stops isBlank rest := by
  rw [← h]
  exact stops_dropWhile isBlank input

section

variable {mode : Mode} {rules : List Rule} {gap : List Char}

theorem of_blank (hgap : ∀ c ∈ gap, isBlank c = true) : of mode rules gap = done gap := by
  have dropped := dropWhile_eq_nil hgap
  rw [of]
  split
  · rw [takeWhile_eq_self hgap]
  · next h => rw [dropped] at h; cases h

/-- Behind a gap the first rule that does not pass decides, whatever the list of rules is. -/
theorem of_append_cons {c : Char} {cs : List Char} (hgap : ∀ c ∈ gap, isBlank c = true)
    (hc : isBlank c = false) :
    of mode rules (gap ++ c :: cs) =
      match Rule.readFirst mode rules (c :: cs) with
      | .read l rest => lexeme gap l (of mode rules rest)
      | .unclosed quote => unclosed gap quote (c :: cs)
      | .pass => unmatched gap c (of mode rules cs) := by
  have stop : Stops isBlank (c :: cs) := stops_cons.mpr hc
  have taken := takeWhile_append_of_stops hgap stop
  have dropped := dropWhile_append_of_stops hgap stop
  rw [of]
  split
  · next h => rw [dropped] at h; cases h
  · next h =>
    rw [dropped] at h
    cases h
    split
    · next hread => simp only [taken, hread]
    · next hread => simp only [taken, hread]
    · next hread => simp only [taken, hread]

/-- Two lists of rules that read alike make the same readings. Where a blank stands, no rule is
asked. -/
theorem of_congr {rules' : List Rule}
    (alike : ∀ c cs, isBlank c = false →
      Rule.readFirst mode rules (c :: cs) = Rule.readFirst mode rules' (c :: cs))
    (input : List Char) : of mode rules input = of mode rules' input := by
  -- the other list steps over the same gap
  have step {input : List Char} {c : Char} {cs : List Char}
      (hin : input.dropWhile isBlank = c :: cs) :
      of mode rules' input =
        match Rule.readFirst mode rules (c :: cs) with
        | .read l rest => lexeme (input.takeWhile isBlank) l (of mode rules' rest)
        | .unclosed quote => unclosed (input.takeWhile isBlank) quote (c :: cs)
        | .pass => unmatched (input.takeWhile isBlank) c (of mode rules' cs) := by
    have hc := stops_cons.mp (stops_of_dropWhile_eq hin)
    rw [alike c cs hc, ← of_append_cons (isBlank_of_mem_takeWhile input) hc, ← hin,
      List.takeWhile_append_dropWhile]
  fun_induction of mode rules input with
  | case1 input gap hin =>
      have whole := List.takeWhile_append_dropWhile (p := isBlank) (l := input)
      rw [hin, List.append_nil] at whole
      calc done gap = of mode rules' gap := (of_blank (isBlank_of_mem_takeWhile input)).symm
        _ = of mode rules' input := congrArg (of mode rules') whole
  | case2 input gap c cs hin l rest hread ih =>
      rw [step hin, hread]
      exact congrArg (lexeme gap l) ih
  | case3 input gap c cs hin quote hread => rw [step hin, hread]
  | case4 input gap c cs hin hread ih =>
      rw [step hin, hread]
      exact congrArg (unmatched gap c) ih

end

/-! ## Normal readings are the readings of the rules in order -/

/-- The rules in order make normal readings. -/
theorem normal_of (mode : Mode) (input : List Char) : (of mode Rule.inOrder input).Normal mode := by
  fun_induction of mode Rule.inOrder input with
  | case1 input gap hin => exact isBlank_of_mem_takeWhile input
  | case2 input gap c cs hin l rest hread ih =>
      rw [Rule.readFirst_eq_read_iff (stops_of_dropWhile_eq hin)] at hread
      obtain ⟨-, wf, ends, closed⟩ := hread
      refine ⟨isBlank_of_mem_takeWhile input, wf, ?_, closed, ih⟩
      rw [spelling_of]
      exact ends
  | case3 input gap c cs hin quote hread =>
      rw [Rule.readFirst_eq_unclosed_iff] at hread
      exact ⟨isBlank_of_mem_takeWhile input, hread⟩
  | case4 input gap c cs hin hread ih =>
      exact absurd hread (Rule.readFirst_ne_pass mode c cs)

/-- Every text has a normal reading. -/
theorem exists_normal (mode : Mode) (input : List Char) :
    ∃ r : Reading, r.Normal mode ∧ r.spelling = input :=
  ⟨of mode Rule.inOrder input, normal_of mode input, spelling_of mode Rule.inOrder input⟩

/-- **A normal reading is read back from what it spells.** -/
theorem of_spelling {mode : Mode} {r : Reading} (normal : r.Normal mode) :
    of mode Rule.inOrder r.spelling = r := by
  induction r with
  | done gap => exact of_blank normal
  | lexeme gap l next ih =>
      obtain ⟨hgap, wf, ends, closed, hnext⟩ := normal
      obtain ⟨c, cs, hc, blank⟩ := wf.spelling_eq_cons
      have hread : Rule.readFirst mode Rule.inOrder (c :: (cs ++ next.spelling))
          = .read l next.spelling :=
        (Rule.readFirst_eq_read_iff (stops_cons.mpr blank)).mpr
          ⟨by rw [hc, List.cons_append], wf, ends, closed⟩
      rw [spelling, List.append_assoc, hc, List.cons_append, of_append_cons hgap blank, hread]
      simp only [ih hnext]
  | unclosed gap quote literal =>
      obtain ⟨hgap, strict, hq, body, rfl, hbody⟩ := normal
      have hread : Rule.readFirst mode Rule.inOrder (quote :: body) = .unclosed quote :=
        Rule.readFirst_eq_unclosed_iff.mpr ⟨strict, hq, body, rfl, hbody⟩
      rw [spelling, of_append_cons hgap (Rule.claiming_quote hq).1, hread]
  | unmatched gap found next => exact absurd normal id

/-- A normal reading of a text is its reading. -/
theorem of_eq_iff {mode : Mode} {input : List Char} {r : Reading} :
    of mode Rule.inOrder input = r ↔ r.spelling = input ∧ r.Normal mode := by
  constructor
  · rintro rfl
    exact ⟨spelling_of mode Rule.inOrder input, normal_of mode input⟩
  · rintro ⟨rfl, normal⟩
    exact of_spelling normal

end Reading

end Ixo
