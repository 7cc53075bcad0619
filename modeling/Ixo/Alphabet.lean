/-!
# The alphabet

The classes of characters that the lexical rules speak of, and the length of a text in UTF-8
bytes. Every class holds ASCII characters only, and a source may hold characters of no class.
The point is in two classes: it is a numeral and an operator character.
-/

set_option autoImplicit false

namespace Ixo

/-- The characters that separate lexemes and are part of none: space, tab, line feed and
carriage return. No other white space separates. -/
def isBlank (c : Char) : Bool := [' ', '\t', '\n', '\r'].contains c

/-- The characters a word starts with. -/
def isLetter (c : Char) : Bool := c.isAlpha

/-- The characters a word goes on with. -/
def isWordChar (c : Char) : Bool := c.isAlphanum || c == '_'

/-- The characters of a number. A point may stand anywhere and any number of times. -/
def isNumeral (c : Char) : Bool := c.isDigit || c == '.'

/-- The characters that open a literal, and close it again. -/
def isQuote (c : Char) : Bool := ['"', '\''].contains c

def isBracket (c : Char) : Bool := ['(', ')', '[', ']', '{', '}'].contains c

def isPunctuation (c : Char) : Bool := [':', ',', ';'].contains c

/-- The characters of an operator. -/
def isOperatorChar (c : Char) : Bool :=
  ['+', '-', '*', '/', '%', '^', '&', '|', '!', '<', '>', '=', '~', '.'].contains c

/-- The length of a text in bytes, each character taking what UTF-8 gives it. -/
def byteLength (cs : List Char) : Nat := cs.foldr (fun c n => c.utf8Size + n) 0

@[simp] theorem byteLength_nil : byteLength [] = 0 := rfl

@[simp] theorem byteLength_cons (c : Char) (cs : List Char) :
    byteLength (c :: cs) = c.utf8Size + byteLength cs := rfl

@[simp] theorem byteLength_append (as bs : List Char) :
    byteLength (as ++ bs) = byteLength as + byteLength bs := by
  induction as with
  | nil => simp
  | cons c cs ih => rw [List.cons_append, byteLength_cons, byteLength_cons, ih, Nat.add_assoc]

/-- The length in bytes is the one that core gives the string of the same characters. -/
theorem utf8ByteSize_ofList (cs : List Char) :
    (String.ofList cs).utf8ByteSize = byteLength cs := by
  induction cs with
  | nil => rfl
  | cons c cs ih =>
    rw [String.ofList_cons, String.utf8ByteSize_append, String.utf8ByteSize_singleton, ih,
      byteLength_cons]

end Ixo
