import Ixo.Proofs.Reading.Normal

/-!
# Readings one behind the other

`Reading.append` puts a reading behind another: the gap at the end of the first and the gap at the
start of the second become one. What comes out spells both texts, and it is normal if the first
reading *ends before* the second text (`Reading.EndsBefore`), which says that no lexeme of the
first goes on with what stands behind it. So the reading of two texts in a row is made of the
readings of the two (`Reading.of_append`), and of the second text only the first character
matters to the first (`Reading.endsBefore_congr`).
-/

set_option autoImplicit false

namespace Ixo

namespace Reading

/-! ## A gap in front of a reading -/

/-- The reading with a gap in front of it. -/
def behind (gap : List Char) : Reading → Reading
  | done g => done (gap ++ g)
  | lexeme g l next => lexeme (gap ++ g) l next
  | unclosed g quote literal => unclosed (gap ++ g) quote literal
  | unmatched g found next => unmatched (gap ++ g) found next

@[simp] theorem spelling_behind (gap : List Char) (r : Reading) :
    (r.behind gap).spelling = gap ++ r.spelling := by
  cases r <;> simp [behind, spelling]

theorem normal_behind {mode : Mode} {gap : List Char} {r : Reading}
    (hgap : ∀ c ∈ gap, isBlank c = true) (normal : r.Normal mode) :
    (r.behind gap).Normal mode := by
  have both {g : List Char} (hg : ∀ c ∈ g, isBlank c = true) :
      ∀ c ∈ gap ++ g, isBlank c = true := by
    intro c hc
    rcases List.mem_append.mp hc with hc | hc
    · exact hgap c hc
    · exact hg c hc
  cases r with
  | done g => exact both normal
  | lexeme g l next => exact ⟨both normal.1, normal.2⟩
  | unclosed g quote literal => exact ⟨both normal.1, normal.2⟩
  | unmatched g found next => exact absurd normal id

/-! ## Where a reading ends -/

/-- No lexeme of a reading goes on with the text behind it, and a literal that had to be closed
has no text behind it. -/
def EndsBefore : Reading → List Char → Prop
  | done _, _ => True
  | lexeme _ l next, rest => l.EndsBefore (next.spelling ++ rest) ∧ next.EndsBefore rest
  | unclosed .., rest => rest = []
  | unmatched _ _ next, rest => next.EndsBefore rest

/-- Of the text behind a reading only the first character matters. -/
theorem endsBefore_congr {r : Reading} {rest rest' : List Char} (h : rest.head? = rest'.head?) :
    r.EndsBefore rest ↔ r.EndsBefore rest' := by
  induction r with
  | done gap => exact Iff.rfl
  | lexeme gap l next ih =>
      have head : (next.spelling ++ rest).head? = (next.spelling ++ rest').head? := by
        rw [List.head?_append, List.head?_append, h]
      have hl : l.EndsBefore (next.spelling ++ rest) ↔ l.EndsBefore (next.spelling ++ rest') := by
        rw [Lexeme.EndsBefore, Lexeme.EndsBefore, Stops, Stops, head]
      exact and_congr hl ih
  | unclosed gap quote literal =>
      show rest = [] ↔ rest' = []
      rw [← List.head?_eq_none_iff, h, List.head?_eq_none_iff]
  | unmatched gap found next ih => exact ih

/-- A reading that ends before two texts in a row ends before the first. -/
theorem EndsBefore.of_append {r : Reading} {as bs : List Char} (ends : r.EndsBefore (as ++ bs)) :
    r.EndsBefore as := by
  induction r with
  | done gap => trivial
  | lexeme gap l next ih =>
      obtain ⟨hl, hnext⟩ := ends
      rw [← List.append_assoc] at hl
      exact ⟨(stops_append_iff.mp hl).1, ih hnext⟩
  | unclosed gap quote literal => exact (List.append_eq_nil_iff.mp ends).1
  | unmatched gap found next ih => exact ih ends

theorem endsBefore_behind_iff {gap : List Char} {r : Reading} {rest : List Char} :
    (r.behind gap).EndsBefore rest ↔ r.EndsBefore rest := by
  cases r <;> rfl

/-! ## A reading behind a reading -/

/-- Two readings, the second behind the first. Nothing comes behind a literal that had to be
closed. -/
def append : Reading → Reading → Reading
  | done gap, s => s.behind gap
  | lexeme gap l next, s => lexeme gap l (next.append s)
  | unclosed gap quote literal, _ => unclosed gap quote literal
  | unmatched gap found next, s => unmatched gap found (next.append s)

section

variable {mode : Mode} {r s : Reading}

theorem spelling_append (ends : r.EndsBefore s.spelling) :
    (r.append s).spelling = r.spelling ++ s.spelling := by
  induction r with
  | done gap => exact spelling_behind gap s
  | lexeme gap l next ih =>
      rw [append, spelling, spelling, ih ends.2, List.append_assoc, List.append_assoc,
        List.append_assoc]
  | unclosed gap quote literal =>
      have nothing : s.spelling = [] := ends
      rw [append, nothing, List.append_nil]
  | unmatched gap found next ih =>
      rw [append, spelling, spelling, ih ends, List.append_assoc, List.cons_append]

theorem normal_append (hr : r.Normal mode) (hs : s.Normal mode)
    (ends : r.EndsBefore s.spelling) : (r.append s).Normal mode := by
  induction r with
  | done gap => exact normal_behind hr hs
  | lexeme gap l next ih =>
      obtain ⟨hgap, wf, -, closed, hnext⟩ := hr
      refine ⟨hgap, wf, ?_, closed, ih hnext ends.2⟩
      rw [spelling_append ends.2]
      exact ends.1
  | unclosed gap quote literal => exact hr
  | unmatched gap found next => exact absurd hr id

/-- Two readings end where the second ends. -/
theorem endsBefore_append {rest : List Char} (hr : r.EndsBefore (s.spelling ++ rest))
    (hs : s.EndsBefore rest) : (r.append s).EndsBefore rest := by
  induction r with
  | done gap => exact endsBefore_behind_iff.mpr hs
  | lexeme gap l next ih =>
      obtain ⟨hl, hnext⟩ := hr
      refine ⟨?_, ih hnext⟩
      rw [spelling_append hnext.of_append, List.append_assoc]
      exact hl
  | unclosed gap quote literal => exact (List.append_eq_nil_iff.mp hr).2
  | unmatched gap found next ih => exact ih hr

end

/-- **Two texts in a row are read one after the other** if the reading of the first ends before
the second. -/
theorem of_append {mode : Mode} {as bs : List Char}
    (ends : (of mode Rule.inOrder as).EndsBefore bs) :
    of mode Rule.inOrder (as ++ bs) = (of mode Rule.inOrder as).append (of mode Rule.inOrder bs) := by
  have has := spelling_of mode Rule.inOrder as
  have hbs := spelling_of mode Rule.inOrder bs
  have ends' : (of mode Rule.inOrder as).EndsBefore (of mode Rule.inOrder bs).spelling := by
    rw [hbs]
    exact ends
  refine of_eq_iff.mpr ⟨?_, normal_append (normal_of mode as) (normal_of mode bs) ends'⟩
  rw [spelling_append ends', has, hbs]

end Reading

end Ixo
