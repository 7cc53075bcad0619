import Ixo.Lexeme.Basic
import Ixo.Mode

/-!
# Rules

Eight rules, one for each form of lexeme, each of which either reads a lexeme at the start of
a text or passes. A list of rules reads with the first that does not pass. Every lexeme read is
spelled by the characters taken (`Rule.spelling_append_of_readFirst`), and there is at least
one of them (`Rule.length_lt_of_readFirst`).
-/

set_option autoImplicit false

namespace Ixo

/-- What a rule makes of a text. -/
inductive Attempt where
  /-- The text does not start with a lexeme of this rule. -/
  | pass
  /-- The lexeme at the start of the text, and what follows it. -/
  | read (lexeme : Lexeme) (rest : List Char)
  /-- The text starts with a literal that must be closed and is not. -/
  | unclosed (quote : Char)

/-- Reads one character that starts a lexeme and then every character that goes on with it, so
that what follows is empty or starts with a character that does not. -/
def readRun (starts goesOn : Char → Bool) (lexeme : Char → List Char → Lexeme) :
    List Char → Attempt
  | [] => .pass
  | c :: cs =>
    if starts c then .read (lexeme c (cs.takeWhile goesOn)) (cs.dropWhile goesOn) else .pass

/-- Reads one character. -/
def readOne (holds : Char → Bool) (lexeme : Char → Lexeme) : List Char → Attempt
  | [] => .pass
  | c :: cs => if holds c then .read (lexeme c) cs else .pass

/-- Reads a quote and everything up to the same quote again. Nothing inside is special. -/
def readLiteral (mode : Mode) : List Char → Attempt
  | [] => .pass
  | quote :: cs =>
    if isQuote quote then
      let body := cs.takeWhile (· != quote)
      match cs.dropWhile (· != quote), mode with
      | _ :: rest, _ => .read (.literal quote body true) rest
      | [], .lenient => .read (.literal quote body false) []
      | [], .strict => .unclosed quote
    else .pass

/-- The rules, one for each form of lexeme. -/
inductive Rule where
  | comment
  | word
  | number
  | literal
  | bracket
  | punctuation
  | operator
  | unknown
  deriving DecidableEq

namespace Rule

/-- The order in which rules are tried. A run that starts with a point is a number because
numbers come before operators, and the rule for unknown characters takes what is left. -/
def inOrder : List Rule :=
  [comment, word, number, literal, bracket, punctuation, operator, unknown]

def read (mode : Mode) : Rule → List Char → Attempt
  | comment => readRun (· == '#') (· != '\n') fun _ body => .comment body
  | word => readRun isLetter isWordChar fun c cs => .word (c :: cs)
  | number => readRun isNumeral isNumeral fun c cs => .number (c :: cs)
  | literal => readLiteral mode
  | bracket => readOne isBracket .bracket
  | punctuation => readOne isPunctuation .punctuation
  | operator => readRun isOperatorChar isOperatorChar fun c cs => .operator (c :: cs)
  | unknown => readOne (fun _ => true) .unknown

/-- What the first rule that does not pass makes of a text. -/
def readFirst (mode : Mode) : List Rule → List Char → Attempt
  | [], _ => .pass
  | r :: rs, input =>
    match r.read mode input with
    | .pass => readFirst mode rs input
    | attempt => attempt

end Rule

/-! ## Nothing is lost, and something is read -/

/-- Where an attempt reads, it cuts the text in two: the spelling of the lexeme, which is not
empty, and what follows. -/
def Attempt.Cuts (input : List Char) : Attempt → Prop
  | pass => True
  | read l rest => l.spelling ++ rest = input ∧ rest.length < input.length
  | unclosed _ => True

theorem cuts_readRun {starts goesOn : Char → Bool} {lexeme : Char → List Char → Lexeme}
    (hspell : ∀ c cs, starts c = true → (lexeme c cs).spelling = c :: cs) (input : List Char) :
    (readRun starts goesOn lexeme input).Cuts input := by
  cases input with
  | nil => trivial
  | cons c cs =>
    rw [readRun]
    split
    · next hc =>
      constructor
      · rw [hspell c _ hc, List.cons_append, List.takeWhile_append_dropWhile]
      · exact Nat.lt_succ_of_le (List.dropWhile_sublist _).length_le
    · trivial

theorem cuts_readOne {holds : Char → Bool} {lexeme : Char → Lexeme}
    (hspell : ∀ c, (lexeme c).spelling = [c]) (input : List Char) :
    (readOne holds lexeme input).Cuts input := by
  cases input with
  | nil => trivial
  | cons c cs =>
    rw [readOne]
    split
    · constructor
      · rw [hspell c]
        rfl
      · exact Nat.lt_succ_self _
    · trivial

theorem cuts_readLiteral (mode : Mode) (input : List Char) :
    (readLiteral mode input).Cuts input := by
  cases input with
  | nil => trivial
  | cons quote cs =>
    have whole := List.takeWhile_append_dropWhile (p := (· != quote)) (l := cs)
    have shorter := (List.dropWhile_sublist (l := cs) (· != quote)).length_le
    rw [readLiteral]
    split
    · split
      · next _ d tail hdrop =>
        have hd : d = quote := by
          have := List.head?_dropWhile_not (fun c => c != quote) cs
          simpa [hdrop] using this
        rw [hdrop, hd] at whole
        rw [hdrop, List.length_cons] at shorter
        constructor
        · simp [Lexeme.spelling, whole]
        · rw [List.length_cons]
          omega
      · next hdrop =>
        rw [hdrop, List.append_nil] at whole
        constructor
        · simp [Lexeme.spelling, whole]
        · exact Nat.succ_pos _
      · trivial
    · trivial

namespace Rule

theorem cuts_read (mode : Mode) (r : Rule) (input : List Char) :
    (r.read mode input).Cuts input := by
  cases r <;> rw [read]
  case comment =>
    refine cuts_readRun (fun c cs hc => ?_) input
    rw [Lexeme.spelling, eq_of_beq hc]
  case literal => exact cuts_readLiteral mode input
  case word | number | operator => exact cuts_readRun (fun _ _ _ => rfl) input
  case bracket | punctuation | unknown => exact cuts_readOne (fun _ => rfl) input

theorem cuts_readFirst (mode : Mode) (rules : List Rule) (input : List Char) :
    (readFirst mode rules input).Cuts input := by
  induction rules with
  | nil => trivial
  | cons r rs ih =>
    rw [readFirst]
    split
    · exact ih
    · exact cuts_read mode r input

/-- A lexeme is spelled by the characters that are gone from the text. -/
theorem spelling_append_of_readFirst {mode : Mode} {rules : List Rule} {input rest : List Char}
    {l : Lexeme} (h : readFirst mode rules input = .read l rest) : l.spelling ++ rest = input := by
  have := cuts_readFirst mode rules input
  rw [h] at this
  exact this.1

/-- Reading takes at least one character. -/
theorem length_lt_of_readFirst {mode : Mode} {rules : List Rule} {input rest : List Char}
    {l : Lexeme} (h : readFirst mode rules input = .read l rest) :
    rest.length < input.length := by
  have := cuts_readFirst mode rules input
  rw [h] at this
  exact this.2

end Rule

end Ixo
