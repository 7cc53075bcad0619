import Ixo.Lexeme.Rule

/-!
# Readings

A reading is what a list of rules makes of a text from its start to its end: the blanks it
skips, the lexemes it reads between them, and the places where it cannot read. It holds every
character of the text: `Reading.spelling` prints it, and printing the reading of a text gives
the text (`Reading.spelling_of`).
-/

set_option autoImplicit false

namespace Ixo

/-- A text as it has been read. Every step starts with a gap, the blanks in front of what was
found. -/
inductive Reading where
  /-- Nothing but blanks was left. -/
  | done (gap : List Char)
  | lexeme (gap : List Char) (l : Lexeme) (next : Reading)
  /-- A literal that had to be closed was open. It is all that was left. -/
  | unclosed (gap : List Char) (quote : Char) (literal : List Char)
  /-- No rule read anything here, and one character was skipped. -/
  | unmatched (gap : List Char) (found : Char) (next : Reading)

namespace Reading

/-- The text that was read. -/
def spelling : Reading → List Char
  | done gap => gap
  | lexeme gap l next => gap ++ l.spelling ++ next.spelling
  | unclosed gap _ literal => gap ++ literal
  | unmatched gap found next => gap ++ found :: next.spelling

/-- Reads a text with a list of rules: skips the blanks, lets the first rule that does not pass
read, and goes on with what follows. -/
def of (mode : Mode) (rules : List Rule) (input : List Char) : Reading :=
  let gap := input.takeWhile isBlank
  match _ : input.dropWhile isBlank with
  | [] => .done gap
  | c :: cs =>
    match _ : Rule.readFirst mode rules (c :: cs) with
    | .read l rest => .lexeme gap l (of mode rules rest)
    | .unclosed quote => .unclosed gap quote (c :: cs)
    | .pass => .unmatched gap c (of mode rules cs)
termination_by input.length
decreasing_by
  all_goals
    have hle := (List.dropWhile_sublist (l := input) isBlank).length_le
    rw [‹input.dropWhile isBlank = c :: cs›] at hle
  · have := Rule.length_lt_of_readFirst ‹_ = Attempt.read l rest›
    omega
  · exact hle

/-- Reading loses nothing: the text is printed back. -/
theorem spelling_of (mode : Mode) (rules : List Rule) (input : List Char) :
    (of mode rules input).spelling = input := by
  fun_induction of mode rules input with
  | case1 input gap hin =>
    have whole := List.takeWhile_append_dropWhile (p := isBlank) (l := input)
    rw [hin, List.append_nil] at whole
    exact whole
  | case2 input gap c cs hin l rest hread ih =>
    rw [spelling, ih, List.append_assoc, Rule.spelling_append_of_readFirst hread, ← hin]
    exact List.takeWhile_append_dropWhile
  | case3 input gap c cs hin quote hread =>
    rw [spelling, ← hin]
    exact List.takeWhile_append_dropWhile
  | case4 input gap c cs hin hread ih =>
    rw [spelling, ih, ← hin]
    exact List.takeWhile_append_dropWhile

end Reading

end Ixo
