import Ixo.Proofs.Scan.Classification
import Mathlib.Data.List.Nodup

/-!
# The order of the rules

Of two rules, the order matters only where both start with the same character, and that happens in
two ways: the rule for unknown characters starts with every character, and numbers and operators
start with a point (`Rule.starts_cases`). So the rules can be tried in any order that has numbers
before operators and unknown characters last, and in no other order do they read the same
(`readFirst_reordered_iff`). A scan does not change with such an order.
-/

set_option autoImplicit false

namespace Ixo

/-- What an attempt comes to in a source where the text starts at `offset`: a token and the text
that is left, or an open literal. -/
def Attempt.outcome (offset : Nat) : Attempt → Option (Except Char (Token × List Char))
  | pass => none
  | read l rest => some (.ok (l.token offset, rest))
  | unclosed quote => some (.error quote)

/-- The kind of a token tells the rule that read its lexeme. -/
theorem Lexeme.rule_kind (l : Lexeme) : l.kind.rule = l.rule := by
  cases l with
  | word cs =>
      rcases Kind.ofWord_cases (String.ofList cs) with h | h | h <;>
        simp [kind, rule, Kind.rule, h]
  | bracket c =>
      simp only [kind, rule]
      repeat' split
      all_goals rfl
  | _ => rfl

namespace Rule

/-! ## Where two rules start alike -/

theorem starts_claiming (c : Char) : (claiming c).starts c = true :=
  List.find?_some (p := fun r => starts r c) (find?_inOrder c)

/-- Two rules start with the same character only if one of them is for unknown characters, or with
a point. -/
theorem starts_cases {r : Rule} {c : Char} (h : r.starts c = true) :
    r = claiming c ∨ r = unknown ∨ r = operator ∧ c = '.' := by
  cases r with
  | comment =>
      rw [eq_of_beq h]
      exact Or.inl rfl
  | word => exact Or.inl (claiming_letter h).2.symm
  | number => exact Or.inl (claiming_numeral h).2.symm
  | literal => exact Or.inl (claiming_quote h).2.symm
  | bracket => exact Or.inl (claiming_bracket h).2.symm
  | punctuation => exact Or.inl (claiming_punctuation h).2.symm
  | operator =>
      by_cases point : c = '.'
      · exact Or.inr (Or.inr ⟨rfl, point⟩)
      · exact Or.inl (claiming_operatorChar h point).2.symm
  | unknown => exact Or.inr (Or.inl rfl)

/-- Every rule is the first to start with some character. -/
theorem exists_claiming_eq (r : Rule) : ∃ c, claiming c = r := by
  cases r with
  | comment => exact ⟨'#', rfl⟩
  | word => exact ⟨'a', rfl⟩
  | number => exact ⟨'0', rfl⟩
  | literal => exact ⟨'"', rfl⟩
  | bracket => exact ⟨'(', rfl⟩
  | punctuation => exact ⟨',', rfl⟩
  | operator => exact ⟨'+', rfl⟩
  | unknown => exact ⟨'_', rfl⟩

/-- The rule that came to something: the kind of a token tells it, and only one rule finds a literal
open. -/
def behind : Except Char (Token × List Char) → Rule
  | .ok (t, _) => t.kind.rule
  | .error _ => literal

/-- A rule comes to something wherever it starts, and what it comes to tells the rule. -/
theorem exists_outcome_eq {r : Rule} {c : Char} (h : r.starts c = true) (mode : Mode)
    (offset : Nat) (cs : List Char) :
    ∃ x, (r.read mode (c :: cs)).outcome offset = some x ∧ behind x = r := by
  cases hread : r.read mode (c :: cs) with
  | pass =>
      rw [read_cons_eq_pass_iff.mp hread] at h
      cases h
  | read l rest =>
      refine ⟨.ok (l.token offset, rest), rfl, ?_⟩
      calc (l.token offset).kind.rule = l.rule := l.rule_kind
        _ = r := (read_eq_read_iff.mp hread).1
  | unclosed quote => exact ⟨.error quote, rfl, (read_eq_unclosed_iff.mp hread).1.symm⟩

/-! ## Rules in any order -/

section

variable {rules : List Rule}

/-- A list of rules reads as the rules in order do if the same rule is the first to start with
every character. -/
theorem readFirst_eq_of_find? (mode : Mode)
    (first : ∀ c, rules.find? (·.starts c) = some (claiming c)) (c : Char) (cs : List Char) :
    readFirst mode rules (c :: cs) = readFirst mode inOrder (c :: cs) := by
  rw [readFirst_cons, first, readFirst_inOrder_cons]
  rfl

/-- One character is enough to tell which rule is the first. -/
theorem find?_eq_of_outcome_eq {mode : Mode} {offset : Nat} {c : Char}
    (same : (readFirst mode rules [c]).outcome offset =
      (readFirst mode inOrder [c]).outcome offset) :
    rules.find? (·.starts c) = some (claiming c) := by
  obtain ⟨x, hx, first⟩ := exists_outcome_eq (starts_claiming c) mode offset []
  rw [readFirst_cons, readFirst_inOrder_cons, hx] at same
  cases hfind : rules.find? (·.starts c) with
  | none =>
      -- no rule would read where the rules in order come to something
      rw [hfind] at same
      cases same
  | some r =>
      have hr : r.starts c = true := List.find?_some (p := fun r => starts r c) hfind
      obtain ⟨y, hy, second⟩ := exists_outcome_eq hr mode offset []
      rw [hfind] at same
      have alike : y = x := Option.some.inj (hy.symm.trans same)
      rw [← first, ← second, alike]

/-- The first rule to start with a character stands before every other rule that does. -/
theorem idxOf_lt_of_find? {c : Char} {r s : Rule} (hr : rules.find? (·.starts c) = some r)
    (hs : s.starts c = true) (ne : r ≠ s) : rules.idxOf r < rules.idxOf s := by
  obtain ⟨hstarts, before, after, rfl, hbefore⟩ := List.find?_eq_some_iff_append.mp hr
  have absent {s : Rule} (hs : s.starts c = true) : s ∉ before := by
    intro hmem
    simpa [hs] using hbefore s hmem
  rw [List.idxOf_append_of_notMem (absent hstarts), List.idxOf_append_of_notMem (absent hs),
    List.idxOf_cons_self, List.idxOf_cons_ne _ ne]
  omega

/-- No rule stands behind the last one. -/
theorem idxOf_le_of_getLast? {r s : Rule} (once : rules.Nodup) (last : rules.getLast? = some r)
    (hs : s ∈ rules) : rules.idxOf s ≤ rules.idxOf r := by
  obtain ⟨init, rfl⟩ := List.getLast?_eq_some_iff.mp last
  have absent : r ∉ init := by
    intro hmem
    exact (List.nodup_append.mp once).2.2 r hmem r (List.mem_singleton_self r) rfl
  have hlt := List.idxOf_lt_length_of_mem hs
  rw [List.length_append, List.length_singleton] at hlt
  rw [List.idxOf_append_of_notMem absent, List.idxOf_cons_self]
  omega

/-- **The first rule to start is the same for every character exactly if numbers come before
operators and unknown characters last.** -/
theorem find?_eq_claiming_iff (perm : rules.Perm inOrder) :
    (∀ c, rules.find? (·.starts c) = some (claiming c)) ↔
      rules.idxOf number < rules.idxOf operator ∧ rules.getLast? = some unknown := by
  have once : rules.Nodup := perm.nodup_iff.mpr (by decide)
  have every (r : Rule) : r ∈ rules := perm.mem_iff.mpr (by cases r <;> decide)
  constructor
  · intro first
    constructor
    · -- both start with a point, and numbers are the first to do so
      exact idxOf_lt_of_find? (first '.') rfl (by decide)
    · obtain ⟨r, last⟩ : ∃ r, rules.getLast? = some r :=
        Option.isSome_iff_exists.mp (List.getLast?_isSome.mpr (List.ne_nil_of_mem (every unknown)))
      by_cases hr : r = unknown
      · rw [last, hr]
      · -- the last rule is the first to start with some character, and so before the rule for
        -- unknown characters, which starts with that one too
        obtain ⟨c, rfl⟩ := r.exists_claiming_eq
        have early := idxOf_lt_of_find? (first c) (s := unknown) rfl hr
        have late := idxOf_le_of_getLast? once last (every unknown)
        omega
  · rintro ⟨points, last⟩ c
    obtain ⟨r, hr⟩ : ∃ r, rules.find? (·.starts c) = some r :=
      Option.isSome_iff_exists.mp (List.find?_isSome.mpr ⟨_, every _, starts_claiming c⟩)
    by_cases hc : r = claiming c
    · rw [hr, hc]
    · -- otherwise a rule that starts with more characters would come too early
      have early := idxOf_lt_of_find? hr (starts_claiming c) hc
      have hstarts : r.starts c = true := List.find?_some (p := fun r => starts r c) hr
      rcases starts_cases hstarts with own | rfl | ⟨rfl, rfl⟩
      · exact absurd own hc
      · have late := idxOf_le_of_getLast? once last (every (claiming c))
        omega
      · have point : claiming '.' = number := rfl
        rw [point] at early
        omega

end

end Rule

/-- **The order of the rules matters in two ways.** Rules in another order come to the same as the
rules in order, token and rest or open literal, on every text that is not empty, exactly if numbers
come before operators and unknown characters last. Then every scan is the same, too. -/
theorem readFirst_reordered_iff {rules : List Rule} (perm : rules.Perm Rule.inOrder) (mode : Mode)
    (offset : Nat) :
    ((∀ input, input ≠ [] → (Rule.readFirst mode rules input).outcome offset =
        (Rule.readFirst mode Rule.inOrder input).outcome offset) ↔
      rules.idxOf .number < rules.idxOf .operator ∧ rules.getLast? = some .unknown) ∧
    (rules.idxOf .number < rules.idxOf .operator ∧ rules.getLast? = some .unknown →
      ∀ source, Scan.withRules rules mode source = Scan.of mode source) := by
  rw [← Rule.find?_eq_claiming_iff perm]
  refine ⟨⟨?_, ?_⟩, ?_⟩
  · intro same c
    exact Rule.find?_eq_of_outcome_eq (same [c] (List.cons_ne_nil c []))
  · intro first input hinput
    cases input with
    | nil => exact absurd rfl hinput
    | cons c cs => rw [Rule.readFirst_eq_of_find? mode first]
  · intro first source
    have readings : Reading.of mode rules source.toList =
        Reading.of mode Rule.inOrder source.toList :=
      Reading.of_congr (fun c cs _ => Rule.readFirst_eq_of_find? mode first c cs) _
    rw [Scan.of, Scan.withRules, Scan.withRules, readings]

/-- An order that is nearly the other way round changes no scan. With operators before numbers as
well, some text is read otherwise. -/
theorem readFirst_reordered_backwards :
    [Rule.number, .operator, .punctuation, .bracket, .literal, .word, .comment, .unknown].Perm
        Rule.inOrder ∧
      (∀ source, Scan.withRules
        [.number, .operator, .punctuation, .bracket, .literal, .word, .comment, .unknown]
          .strict source = Scan.of .strict source) ∧
      ¬ ∀ input, input ≠ [] → (Rule.readFirst .strict
          [.operator, .number, .punctuation, .bracket, .literal, .word, .comment, .unknown]
            input).outcome 0 = (Rule.readFirst .strict Rule.inOrder input).outcome 0 := by
  have perm : [Rule.number, .operator, .punctuation, .bracket, .literal, .word, .comment,
      .unknown].Perm Rule.inOrder := by decide
  refine ⟨perm, (readFirst_reordered_iff perm .strict 0).2 (by decide), fun same => ?_⟩
  exact absurd ((readFirst_reordered_iff (by decide) .strict 0).1.mp same) (by decide)

end Ixo
