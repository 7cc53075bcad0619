import Ixo.Lexeme.Rule

/-!
# The forms of lexemes

A lexeme has a *shape*, which is what its own rule asks of its characters, and the rules in
front of its own leave it its first character (`Lexeme.isLeft`). Together these are the lexical
grammar, `Lexeme.WellFormed`. What a lexeme goes on with, `Lexeme.absorbs`, is what may not
stand right behind it.

The grammar is tied to the order of the rules by `Lexeme.wellFormed_iff`: a lexeme is well
formed exactly if it has its shape and its own rule is the first that starts with its first
character, and that character is no blank.
-/

set_option autoImplicit false

namespace Ixo

/-- A text that is empty or starts with a character outside of a class. -/
def Stops (goesOn : Char → Bool) (rest : List Char) : Prop :=
  ∀ c ∈ rest.head?, goesOn c = false

@[simp] theorem stops_nil (goesOn : Char → Bool) : Stops goesOn [] := by
  intro c hc
  cases hc

@[simp] theorem stops_cons {goesOn : Char → Bool} {c : Char} {cs : List Char} :
    Stops goesOn (c :: cs) ↔ goesOn c = false := by
  simp [Stops]

/-- Whether a run stops before two texts in a row depends on the second only where the first is
empty. -/
theorem stops_append_iff {goesOn : Char → Bool} {as bs : List Char} :
    Stops goesOn (as ++ bs) ↔ Stops goesOn as ∧ (as = [] → Stops goesOn bs) := by
  cases as with
  | nil => simp
  | cons c cs => simp

instance (goesOn : Char → Bool) : (rest : List Char) → Decidable (Stops goesOn rest)
  | [] => isTrue (stops_nil goesOn)
  | _ :: _ => decidable_of_iff _ stops_cons.symm

/-- A property of every character of a text that is written out. -/
theorem forall_of_all {p : Char → Prop} [DecidablePred p] {cs : List Char}
    (all : cs.all (fun d => decide (p d)) = true) : ∀ c ∈ cs, p c := fun c hc =>
  of_decide_eq_true (List.all_eq_true.mp all c hc)

/-- A property of every character of a class that is given by its characters. -/
theorem of_contains {p : Char → Prop} [DecidablePred p] {cs : List Char} {c : Char}
    (h : cs.contains c = true) (all : cs.all (fun d => decide (p d)) = true) : p c :=
  forall_of_all all c (List.contains_iff_mem.mp h)

/-- A class that holds of none of some characters holds only outside of them. -/
theorem contains_eq_false_of_holds {holds : Char → Bool} (cs : List Char) {c : Char}
    (none : cs.all (fun d => !holds d) = true) (h : holds c = true) : cs.contains c = false := by
  cases hc : cs.contains c with
  | false => rfl
  | true =>
      have := List.all_eq_true.mp none c (List.contains_iff_mem.mp hc)
      rw [h] at this
      cases this

/-- The characters that belong to no class of the alphabet. -/
def isForeign (c : Char) : Bool :=
  !(isBlank c || c.isAlphanum || c == '#' || isQuote c || isBracket c || isPunctuation c ||
    isOperatorChar c)

/-! ## The grammar -/

namespace Lexeme

/-- The rule that reads lexemes of this form. -/
def rule : Lexeme → Rule
  | comment _ => .comment
  | word _ => .word
  | number _ => .number
  | literal .. => .literal
  | bracket _ => .bracket
  | punctuation _ => .punctuation
  | operator _ => .operator
  | unknown _ => .unknown

/-- What the rule of a lexeme asks of its characters. -/
def HasShape : Lexeme → Prop
  | comment body => '\n' ∉ body
  | word [] => False
  | word (c :: cs) => isLetter c = true ∧ ∀ d ∈ cs, isWordChar d = true
  | number [] => False
  | number (c :: cs) => isNumeral c = true ∧ ∀ d ∈ cs, isNumeral d = true
  | literal quote body _ => isQuote quote = true ∧ quote ∉ body
  | bracket c => isBracket c = true
  | punctuation c => isPunctuation c = true
  | operator [] => False
  | operator (c :: cs) => isOperatorChar c = true ∧ ∀ d ∈ cs, isOperatorChar d = true
  | unknown _ => True

/-- The rules in front leave a lexeme its first character: an operator does not start with a
point, and an unknown character is in no class. -/
def isLeft : Lexeme → Bool
  | operator cs => cs.head? != some '.'
  | unknown c => isForeign c
  | _ => true

/-- The lexical grammar. -/
def WellFormed (l : Lexeme) : Prop := l.HasShape ∧ l.isLeft = true

/-- Whether a lexeme has everything that its form asks for. Only a literal can lack something,
its closing quote. -/
def isClosed : Lexeme → Bool
  | literal _ _ closed => closed
  | _ => true

/-- The characters that a lexeme goes on with. A literal without its closing quote goes on with
every character, so that nothing can follow it. -/
def absorbs : Lexeme → Char → Bool
  | comment _, c => c != '\n'
  | word _, c => isWordChar c
  | number _, c => isNumeral c
  | literal _ _ closed, _ => !closed
  | operator _, c => isOperatorChar c
  | bracket _, _ | punctuation _, _ | unknown _, _ => false

/-- A lexeme is as long as it can be in front of a text. -/
def EndsBefore (l : Lexeme) (rest : List Char) : Prop := Stops l.absorbs rest

instance decidableHasShape : (l : Lexeme) → Decidable l.HasShape
  | comment body => inferInstanceAs (Decidable ('\n' ∉ body))
  | word [] | number [] | operator [] => inferInstanceAs (Decidable False)
  | word (c :: cs) =>
    decidable_of_iff (isLetter c = true ∧ cs.all isWordChar = true) (by simp [HasShape])
  | number (c :: cs) =>
    decidable_of_iff (isNumeral c = true ∧ cs.all isNumeral = true) (by simp [HasShape])
  | literal quote body _ => inferInstanceAs (Decidable (isQuote quote = true ∧ quote ∉ body))
  | bracket c => inferInstanceAs (Decidable (isBracket c = true))
  | punctuation c => inferInstanceAs (Decidable (isPunctuation c = true))
  | operator (c :: cs) =>
    decidable_of_iff (isOperatorChar c = true ∧ cs.all isOperatorChar = true)
      (by simp [HasShape])
  | unknown _ => inferInstanceAs (Decidable True)

instance (l : Lexeme) : Decidable l.WellFormed :=
  inferInstanceAs (Decidable (l.HasShape ∧ l.isLeft = true))

instance (l : Lexeme) (rest : List Char) : Decidable (l.EndsBefore rest) :=
  inferInstanceAs (Decidable (Stops l.absorbs rest))

/-- A lexeme of any shape is spelled with at least one character. -/
theorem spelling_eq_cons {l : Lexeme} (h : l.HasShape) : ∃ c cs, l.spelling = c :: cs := by
  cases l with
  | comment body => exact ⟨_, _, rfl⟩
  | word cs | number cs | operator cs =>
      cases cs with
      | nil => exact absurd h id
      | cons c cs => exact ⟨c, cs, rfl⟩
  | literal quote body closed => exact ⟨_, _, rfl⟩
  | bracket c | punctuation c | unknown c => exact ⟨_, _, rfl⟩

end Lexeme

/-! ## First characters -/

namespace Rule

/-- The characters that a rule starts with. -/
def starts : Rule → Char → Bool
  | comment, c => c == '#'
  | word, c => isLetter c
  | number, c => isNumeral c
  | literal, c => isQuote c
  | bracket, c => isBracket c
  | punctuation, c => isPunctuation c
  | operator, c => isOperatorChar c
  | unknown, _ => true

/-- The first rule that starts with a character. The rule for unknown characters starts with
every character, so there is one. -/
def claiming (c : Char) : Rule := (inOrder.find? (·.starts c)).getD .unknown

theorem find?_inOrder (c : Char) : inOrder.find? (·.starts c) = some (claiming c) := by
  have some : (inOrder.find? (·.starts c)).isSome = true := by
    rw [List.find?_isSome]
    exact ⟨unknown, by decide, rfl⟩
  obtain ⟨r, hr⟩ := Option.isSome_iff_exists.mp some
  rw [claiming, hr]
  rfl

/-- The first rule in order is found by asking the rules one after the other. -/
theorem claiming_eq (c : Char) :
    claiming c =
      if c == '#' then comment else if isLetter c then word else if isNumeral c then number
      else if isQuote c then literal else if isBracket c then bracket
      else if isPunctuation c then punctuation else if isOperatorChar c then operator
      else unknown := by
  simp only [claiming, inOrder, List.find?_cons, starts]
  repeat' split
  all_goals simp_all

/-- The digits come before the letters. -/
theorem lt_toNat_of_isLetter {c : Char} (h : isLetter c = true) : '9'.toNat < c.toNat := by
  have case : c.isUpper = true ∨ c.isLower = true := Bool.or_eq_true_iff.mp h
  rcases case with upper | lower
  · have least : 'A'.val ≤ c.val := (of_decide_eq_true upper).1
    calc '9'.toNat < 'A'.toNat := by decide
      _ ≤ c.toNat := UInt32.le_iff_toNat_le.mp least
  · have least : 'a'.val ≤ c.val := of_decide_eq_true (Bool.and_eq_true_iff.mp lower).1
    calc '9'.toNat < 'a'.toNat := by decide
      _ ≤ c.toNat := UInt32.le_iff_toNat_le.mp least

theorem isLetter_eq_false_of_isDigit {c : Char} (h : c.isDigit = true) : isLetter c = false := by
  have most : c.toNat ≤ '9'.toNat := (Char.isDigit_iff_toNat.mp h).2
  rw [Bool.eq_false_iff]
  intro letter
  exact absurd (lt_toNat_of_isLetter letter) (Nat.not_lt.mpr most)

theorem claiming_letter {c : Char} (h : isLetter c = true) :
    isBlank c = false ∧ claiming c = word := by
  have hash : (c == '#') = false := by
    simpa using contains_eq_false_of_holds ['#'] (by decide) h
  exact ⟨contains_eq_false_of_holds _ (by decide) h, by simp [claiming_eq, hash, h]⟩

theorem claiming_numeral {c : Char} (h : isNumeral c = true) :
    isBlank c = false ∧ claiming c = number := by
  have hash : (c == '#') = false := by
    simpa using contains_eq_false_of_holds ['#'] (by decide) h
  have letter : isLetter c = false := by
    rcases Bool.or_eq_true_iff.mp h with digit | point
    · exact isLetter_eq_false_of_isDigit digit
    · rw [eq_of_beq point]
      decide
  exact ⟨contains_eq_false_of_holds _ (by decide) h, by simp [claiming_eq, hash, letter, h]⟩

theorem claiming_quote {c : Char} (h : isQuote c = true) :
    isBlank c = false ∧ claiming c = literal :=
  of_contains (p := fun d => isBlank d = false ∧ claiming d = literal) h (by decide)

theorem claiming_bracket {c : Char} (h : isBracket c = true) :
    isBlank c = false ∧ claiming c = bracket :=
  of_contains (p := fun d => isBlank d = false ∧ claiming d = bracket) h (by decide)

theorem claiming_punctuation {c : Char} (h : isPunctuation c = true) :
    isBlank c = false ∧ claiming c = punctuation :=
  of_contains (p := fun d => isBlank d = false ∧ claiming d = punctuation) h (by decide)

theorem claiming_operatorChar {c : Char} (h : isOperatorChar c = true) (point : c ≠ '.') :
    isBlank c = false ∧ claiming c = operator :=
  of_contains (p := fun d => d ≠ '.' → isBlank d = false ∧ claiming d = operator) h (by decide)
    point

theorem claiming_foreign {c : Char} :
    isForeign c = true ↔ isBlank c = false ∧ claiming c = unknown := by
  have point : isNumeral c = false ↔ c.isDigit = false ∧ c ≠ '.' := by
    simp [isNumeral]
  have operators : isOperatorChar c = false → c ≠ '.' := by
    rintro h rfl
    cases h
  rw [claiming_eq]
  constructor
  · intro h
    simp_all [isForeign, isLetter, Char.isAlphanum]
  · rintro ⟨blank, h⟩
    repeat' split at h
    all_goals simp_all [isForeign, isLetter, Char.isAlphanum]

/-! The same read backwards: where another rule is the first, the character is not in the class. -/

section

variable {c : Char} {r : Rule}

theorem isLetter_eq_false (first : claiming c = r) (hr : r ≠ word) : isLetter c = false :=
  Bool.eq_false_iff.mpr fun h => hr (first.symm.trans (claiming_letter h).2)

theorem isNumeral_eq_false (first : claiming c = r) (hr : r ≠ number) : isNumeral c = false :=
  Bool.eq_false_iff.mpr fun h => hr (first.symm.trans (claiming_numeral h).2)

/-- A point is an operator character that numbers come before. -/
theorem isOperatorChar_eq_false (first : claiming c = r) (hr : r ≠ operator) (point : c ≠ '.') :
    isOperatorChar c = false :=
  Bool.eq_false_iff.mpr fun h => hr (first.symm.trans (claiming_operatorChar h point).2)

/-- The characters of words start a word, a number or, the underscore, nothing. -/
theorem isWordChar_eq_false (first : claiming c = r) (hw : r ≠ word) (hn : r ≠ number)
    (hu : r ≠ unknown) : isWordChar c = false := by
  have letter : c.isAlpha = false := isLetter_eq_false first hw
  have digit : c.isDigit = false := by
    have := isNumeral_eq_false first hn
    simp_all [isNumeral]
  have under : c ≠ '_' := by
    rintro rfl
    exact hu first.symm
  simp [isWordChar, Char.isAlphanum, letter, digit, under]

end

end Rule

namespace Lexeme

/-- A lexeme is well formed exactly if it has its shape and starts where its own rule is the
first to start, at a character that is no blank. -/
theorem wellFormed_iff {l : Lexeme} {c : Char} {cs : List Char} (hl : l.spelling = c :: cs) :
    l.WellFormed ↔ l.HasShape ∧ isBlank c = false ∧ Rule.claiming c = l.rule := by
  rw [WellFormed]
  refine and_congr_right fun shape => ?_
  -- but for operators and unknown characters, the shape alone fixes the rule
  cases l with
  | comment body =>
      obtain ⟨rfl, -⟩ := List.cons.inj hl
      exact ⟨fun _ => ⟨rfl, rfl⟩, fun _ => rfl⟩
  | word ds =>
      cases hl
      exact ⟨fun _ => Rule.claiming_letter shape.1, fun _ => rfl⟩
  | number ds =>
      cases hl
      exact ⟨fun _ => Rule.claiming_numeral shape.1, fun _ => rfl⟩
  | literal quote body closed =>
      obtain ⟨rfl, -⟩ := List.cons.inj hl
      exact ⟨fun _ => Rule.claiming_quote shape.1, fun _ => rfl⟩
  | bracket d =>
      cases hl
      exact ⟨fun _ => Rule.claiming_bracket shape, fun _ => rfl⟩
  | punctuation d =>
      cases hl
      exact ⟨fun _ => Rule.claiming_punctuation shape, fun _ => rfl⟩
  | operator ds =>
      cases hl
      constructor
      · intro left
        exact Rule.claiming_operatorChar shape.1 (by simpa [isLeft] using left)
      · rintro ⟨-, first⟩
        -- a point would have been claimed by the rule for numbers
        have : c ≠ '.' := by
          rintro rfl
          cases first
        simpa [isLeft] using this
  | unknown d =>
      cases hl
      exact Rule.claiming_foreign

/-- What a lexeme is as a token says whether it is a literal. -/
theorem kind_eq_string_iff {l : Lexeme} : l.kind = .string ↔ l.rule = .literal := by
  cases l with
  | literal quote body closed => exact iff_of_true rfl rfl
  | word cs => rcases Kind.ofWord_cases (String.ofList cs) with h | h | h <;> simp [kind, rule, h]
  | bracket c => simp only [kind, rule]; repeat' split <;> simp
  | _ => simp [kind, rule]

/-- It says whether it is a comment, too. -/
theorem kind_eq_comment_iff {l : Lexeme} : l.kind = .comment ↔ l.rule = .comment := by
  cases l with
  | comment body => exact iff_of_true rfl rfl
  | word cs => rcases Kind.ofWord_cases (String.ofList cs) with h | h | h <;> simp [kind, rule, h]
  | bracket c => simp only [kind, rule]; repeat' split <;> simp
  | _ => simp [kind, rule]

/-- Only comments and literals have blanks in them. -/
theorem isBlank_eq_false_of_mem_spelling {l : Lexeme} (wf : l.WellFormed)
    (hc : l.rule ≠ .comment) (hl : l.rule ≠ .literal) : ∀ c ∈ l.spelling, isBlank c = false := by
  cases l with
  | comment body => exact absurd rfl hc
  | literal quote body closed => exact absurd rfl hl
  | word cs | number cs | operator cs =>
      cases cs with
      | nil => exact absurd wf.1 id
      | cons c cs =>
          exact List.forall_mem_cons.mpr ⟨contains_eq_false_of_holds _ (by decide) wf.1.1,
            fun d hd => contains_eq_false_of_holds _ (by decide) (wf.1.2 d hd)⟩
  | bracket c | punctuation c =>
      exact List.forall_mem_singleton.mpr (contains_eq_false_of_holds _ (by decide) wf.1)
  | unknown c =>
      exact List.forall_mem_singleton.mpr (Rule.claiming_foreign.mp wf.2).1

/-- A well-formed lexeme starts with a character that is no blank. -/
theorem WellFormed.spelling_eq_cons {l : Lexeme} (wf : l.WellFormed) :
    ∃ c cs, l.spelling = c :: cs ∧ isBlank c = false := by
  obtain ⟨c, cs, hc⟩ := l.spelling_eq_cons wf.1
  exact ⟨c, cs, hc, ((l.wellFormed_iff hc).mp wf).2.1⟩

end Lexeme

end Ixo
