import Ixo.Unicode.Ranges

/-!
# Flags of patterns

Letters after a question mark in parentheses change how a pattern is read, up to the end of the
group they open or stand in.
-/

set_option autoImplicit false

namespace Ixo.Log.Pattern

structure Flags where
  /-- Letters stand for both of their cases. -/
  anyCase : Bool
  /-- The pattern is about characters, and otherwise about bytes. -/
  unicode : Bool
  /-- White space and comments are left out. -/
  verbose : Bool

namespace Flags

def initial : Flags := ⟨false, true, false⟩

/-- The letters of all flags. Most of them change nothing about the form of a pattern. -/
def letters : List Char := ['i', 'm', 's', 'U', 'u', 'R', 'x']

/-- Whether a change of flags is well formed: known letters, each of them once, and perhaps one
hyphen, which is not the last sign. -/
def isChange (cs : List Char) : Bool :=
  cs.all (fun c => c = '-' || letters.contains c) && decide cs.Nodup && cs.getLast? != some '-'

/-- A flag after a change, which switches on the letters before the hyphen and switches off
those after it. -/
def switched (cs : List Char) (letter : Char) (old : Bool) : Bool :=
  if (cs.takeWhile (· != '-')).contains letter then true else !cs.contains letter && old

def change (f : Flags) (cs : List Char) : Flags :=
  ⟨switched cs 'i' f.anyCase, switched cs 'u' f.unicode, switched cs 'x' f.verbose⟩

/-- What follows white space and comments. A comment goes from a hash sign to the end of its
line. -/
def skipBlank (comment : Bool) : List Char → List Char
  | [] => []
  | c :: cs =>
    if comment then skipBlank (c != '\n') cs
    else if Unicode.isWhiteSpace c then skipBlank false cs
    else if c = '#' then skipBlank true cs
    else c :: cs

/-- What follows everything that is left out. -/
def skip (f : Flags) (cs : List Char) : List Char := if f.verbose then skipBlank false cs else cs

theorem length_skipBlank_le (comment : Bool) (cs : List Char) :
    (skipBlank comment cs).length ≤ cs.length := by
  induction cs generalizing comment with
  | nil => simp [skipBlank]
  | cons c cs ih =>
    have rest (b : Bool) : (skipBlank b cs).length ≤ cs.length + 1 := Nat.le_succ_of_le (ih b)
    unfold skipBlank
    split
    · exact rest _
    · split
      · exact rest _
      · split
        · exact rest _
        · simp

/-- What follows the first character that is not left out is shorter than the text. -/
theorem length_lt_of_skip (f : Flags) {cs rest : List Char} {c : Char}
    (h : f.skip cs = c :: rest) : rest.length < cs.length := by
  have skipped : (f.skip cs).length ≤ cs.length := by
    unfold skip
    split
    · exact length_skipBlank_le false cs
    · exact Nat.le_refl _
  rw [h] at skipped
  exact skipped

/-- The character that decides about a hyphen in front of it. Of a comment it is the first one
after the hash sign. -/
def peek (f : Flags) (cs : List Char) : Option Char :=
  if f.verbose then
    match cs.dropWhile Unicode.isWhiteSpace with
    | '#' :: cs => (cs.dropWhile Unicode.isWhiteSpace).head?
    | cs => cs.head?
  else cs.head?

end Flags

end Ixo.Log.Pattern
