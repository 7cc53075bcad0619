import Ixo.Log.Pattern.Flags

/-!
# Atoms of patterns

The parts of a pattern that hold no others, and the escapes that many of them are written with.

Nothing is known of the letters of Unicode here: a letter of either case, and a class of
characters such as the digits, can only stand in a pattern about bytes. Such a pattern in turn
has to keep characters whole, so it cannot have a byte outside of ASCII.
-/

set_option autoImplicit false

namespace Ixo.Log.Pattern

inductive Atom where
  /-- A character. Two hexadecimal digits write it as a byte. -/
  | literal (c : Char) (asByte : Bool)
  /-- Any character but a line break. -/
  | any
  /-- A start or an end of the text or of a line. -/
  | edge
  /-- A start or an end of a word, or that there is none. -/
  | wordEdge
  /-- The digits, the white space or the characters of words, or all others. -/
  | category (negated : Bool)
  deriving DecidableEq

namespace Atom

def isAscii (c : Char) : Bool := c.toNat < 0x80

/-- Whether an atom can stand in a pattern on its own. -/
def isValid (f : Flags) : Atom → Bool
  | literal c asByte => if f.unicode then !f.anyCase else !asByte || isAscii c
  | any => f.unicode
  | edge | wordEdge => true
  | category negated => !f.unicode && !negated

/-- Whether an atom can stand in a set. -/
def isMember (f : Flags) : Atom → Bool
  | literal c _ => if f.unicode then !f.anyCase else isAscii c
  | category negated => !f.unicode && !negated
  | any | edge | wordEdge => false

/-- Whether two atoms are the ends of a range in a set. -/
def isRange (f : Flags) : Atom → Atom → Bool
  | literal c b, literal d e => c ≤ d && (literal c b).isMember f && (literal d e).isMember f
  | _, _ => false

/-- The value of a hexadecimal digit. -/
def hexDigit? (c : Char) : Option Nat :=
  if c.isDigit then some (c.toNat - '0'.toNat)
  else if 'a' ≤ c && c ≤ 'f' then some (c.toNat - 'a'.toNat + 10)
  else if 'A' ≤ c && c ≤ 'F' then some (c.toNat - 'A'.toNat + 10)
  else none

/-- Reads a number of hexadecimal digits, after those whose value is given. -/
def readHex (f : Flags) : Nat → Nat → List Char → Option (Nat × List Char)
  | 0, value, cs => some (value, cs)
  | n + 1, value, cs =>
    match f.skip cs with
    | [] => none
    | c :: cs => (hexDigit? c).bind fun d => readHex f n (value * 16 + d) cs

/-- Reads the code point of a character in a number of hexadecimal digits. -/
def readCode (f : Flags) (digits : Nat) (cs : List Char) : Option (Atom × List Char) := do
  let (value, cs) ← readHex f digits 0 cs
  if value.isValidChar then some (literal (Char.ofNat value) (digits = 2), cs) else none

/-- The control characters that have a letter. -/
def controls : List (Char × Char) :=
  [('a', '\x07'), ('f', '\x0c'), ('n', '\n'), ('r', '\r'), ('t', '\t'), ('v', '\x0b')]

/-- Reads an escape, its backslash being read. A sign stands for itself. -/
def readEscape (f : Flags) : List Char → Option (Atom × List Char)
  | [] => none
  | 'x' :: cs => readCode f 2 cs
  | 'u' :: cs => readCode f 4 cs
  | 'U' :: cs => readCode f 8 cs
  | c :: cs =>
    if ['A', 'z'].contains c then some (edge, cs)
    else if ['b', 'B', '<', '>'].contains c then some (wordEdge, cs)
    else if ['d', 's', 'w'].contains c then some (category false, cs)
    else if ['D', 'S', 'W'].contains c then some (category true, cs)
    else match controls.lookup c with
      | some d => some (literal d false, cs)
      | none => if isAscii c && !c.isAlphanum then some (literal c false, cs) else none

/-- Reads an atom of a set, where no sign but the backslash is special. -/
def readMember (f : Flags) : List Char → Option (Atom × List Char)
  | [] => none
  | c :: cs => if c = '\\' then readEscape f cs else some (literal c false, cs)

end Atom

end Ixo.Log.Pattern
