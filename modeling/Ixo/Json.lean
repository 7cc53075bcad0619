/-!
# JSON

The part of JSON that a dump of tokens needs: natural numbers, strings, arrays and objects. The
fields of an object keep their order.

The written form of a value goes over several lines: every item of an array and every field of
an object on a line of its own, two spaces deeper than the brackets around it, and an array or
object that holds nothing on one line. Inside a string only the double quote, the backslash and
the characters below the space are escaped, so that a line break in the text is always layout.
-/

set_option autoImplicit false

namespace Ixo

inductive Json where
  | number (n : Nat)
  | string (s : String)
  | array (items : List Json)
  | object (fields : List (String × Json))

namespace Json

/-- What stands for a character inside a string. -/
def escape (c : Char) : List Char :=
  match c with
  | '"' => ['\\', '"']
  | '\\' => ['\\', '\\']
  | '\x08' => ['\\', 'b']
  | '\x0c' => ['\\', 'f']
  | '\n' => ['\\', 'n']
  | '\r' => ['\\', 'r']
  | '\t' => ['\\', 't']
  | c =>
    if c.toNat < 0x20 then
      ['\\', 'u', '0', '0', Nat.digitChar (c.toNat / 16), Nat.digitChar (c.toNat % 16)]
    else [c]

/-- A string in its written form. -/
def quoted (s : String) : List Char := '"' :: (s.toList.flatMap escape ++ ['"'])

/-- The start of a line at a depth. -/
def newline (depth : Nat) : List Char := '\n' :: List.replicate (2 * depth) ' '

/-- The parts that follow the first one, each on a line of its own after a comma. -/
def moreLines (depth : Nat) (parts : List (List Char)) : List Char :=
  parts.flatMap fun part => ',' :: (newline depth ++ part)

/-- Parts between brackets that stand at `depth`. -/
def block (depth : Nat) (opening closing : Char) : List (List Char) → List Char
  | [] => [opening, closing]
  | part :: parts =>
    opening :: (newline (depth + 1) ++ part ++ moreLines (depth + 1) parts ++
      newline depth ++ [closing])

mutual

/-- A value in its written form, on a line that starts at `depth`. -/
def pretty (depth : Nat) : Json → List Char
  | number n => Nat.toDigits 10 n
  | string s => quoted s
  | array items => block depth '[' ']' (prettyItems (depth + 1) items)
  | object fields => block depth '\x7b' '\x7d' (prettyFields (depth + 1) fields)

def prettyItems (depth : Nat) : List Json → List (List Char)
  | [] => []
  | v :: vs => pretty depth v :: prettyItems depth vs

def prettyFields (depth : Nat) : List (String × Json) → List (List Char)
  | [] => []
  | (key, v) :: fs => (quoted key ++ ':' :: ' ' :: pretty depth v) :: prettyFields depth fs

end

end Json

end Ixo
