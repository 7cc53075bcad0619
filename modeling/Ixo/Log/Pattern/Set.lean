import Ixo.Log.Pattern.Atom

/-!
# Sets of characters in patterns

A set stands in brackets. It has characters, ranges, sets with a name such as `[:alpha:]` and
other sets as its parts, and operators between rows of them: intersection `&&`, difference `--`
and symmetric difference `~~`. A set of bytes cannot be negated, because what is left would have
bytes outside of ASCII.

A pattern may not be nested too deep, so what is read of a set is how deep its parts stand in one
another.
-/

set_option autoImplicit false

namespace Ixo.Log.Pattern

/-- Parts in a row: their number, and how deep the deepest of them is nested. -/
structure Parts where
  count : Nat
  depth : Nat

namespace Parts

def empty : Parts := ⟨0, 0⟩

/-- Parts with one more, which is nested this deep. -/
def add (p : Parts) (depth : Nat) : Parts := ⟨p.count + 1, max p.depth depth⟩

/-- How deep a row is nested. Several parts in a row stand in it, but a single one is the row. -/
def nesting (p : Parts) : Nat := if p.count ≤ 1 then p.depth else p.depth + 1

end Parts

/-- A set that is being read, without those inside it. -/
structure SetLevel where
  /-- How deep the operands before the last operator are nested, if there is an operator. -/
  left : Option Nat
  /-- The parts after it. -/
  parts : Parts

namespace SetLevel

def empty : SetLevel := ⟨none, .empty⟩

def add (l : SetLevel) (depth : Nat) : SetLevel := ⟨l.left, l.parts.add depth⟩

/-- How deep what has been read is nested. -/
def nesting (l : SetLevel) : Nat :=
  l.left.elim l.parts.nesting fun depth => max depth l.parts.nesting + 1

/-- A set after an operator. -/
def operator (l : SetLevel) : SetLevel := ⟨some l.nesting, .empty⟩

end SetLevel

/-- The names that sets of ASCII characters have. -/
def setNames : List String :=
  ["alnum", "alpha", "ascii", "blank", "cntrl", "digit", "graph", "lower", "print", "punct",
    "space", "upper", "word", "xdigit"]

/-- Whether a set with a name can stand in another set. -/
def isNamedMember (f : Flags) (negated : Bool) : Bool :=
  if f.unicode then !f.anyCase else !negated

/-- Reads a set with a name, its opening bracket being read, and whether it is negated. -/
def readNamed : List Char → Option (Bool × List Char)
  | ':' :: cs =>
    let (negated, cs) := match cs with
      | '^' :: cs => (true, cs)
      | cs => (false, cs)
    match cs.dropWhile (· != ':') with
    | ':' :: ']' :: rest =>
      if setNames.contains (String.ofList (cs.takeWhile (· != ':'))) then some (negated, rest)
      else none
    | _ => none
  | _ => none

/-- How far a set has been read. -/
structure SetProgress where
  /-- The sets around the innermost one, from the inside out. -/
  outer : List SetLevel
  /-- The innermost set. -/
  level : SetLevel
  /-- Whether nothing but hyphens has been read of it. -/
  opening : Bool

namespace SetProgress

/-- Starts a set, its opening bracket being read. -/
def start (f : Flags) (outer : List SetLevel) (cs : List Char) :
    Option (SetProgress × List Char) :=
  match f.skip cs with
  | '^' :: cs => if f.unicode then some (⟨outer, .empty, true⟩, cs) else none
  | cs => some (⟨outer, .empty, true⟩, cs)

def add (p : SetProgress) (depth : Nat) : SetProgress := ⟨p.outer, p.level.add depth, false⟩

/-- Reads a character or a range. A hyphen makes no range in front of a closing bracket or of
another hyphen. -/
def readPart (f : Flags) (p : SetProgress) (cs : List Char) :
    Option (SetProgress × List Char) := do
  let (first, rest) ← Atom.readMember f cs
  match f.skip rest with
  | '-' :: more =>
    if (f.peek more).any [']', '-'].contains then
      if first.isMember f then some (p.add 0, '-' :: more) else none
    else
      let (last, rest) ← Atom.readMember f (f.skip more)
      if first.isRange f last then some (p.add 0, rest) else none
  | rest => if first.isMember f then some (p.add 0, rest) else none

/-- Reads a part or an operator. At the start of a set, hyphens stand for themselves, and so does
a closing bracket before anything else. -/
def step (f : Flags) (p : SetProgress) (c : Char) (cs : List Char) :
    Option (SetProgress × List Char) :=
  if p.opening && (c = '-' || c = ']' && p.level.parts.count = 0) then
    if (Atom.literal c false).isMember f then some (⟨p.outer, p.level.add 0, c = '-'⟩, cs)
    else none
  else if c = '[' then
    match readNamed cs with
    | some (negated, rest) =>
      if isNamedMember f negated then some (p.add 0, rest) else none
    | none => start f (p.level :: p.outer) cs
  else if ['&', '-', '~'].contains c && cs.head? = some c then
    some (⟨p.outer, p.level.operator, false⟩, cs.drop 1)
  else readPart f p (c :: cs)

/-- Whether a character closes the innermost set. -/
def closes (p : SetProgress) (c : Char) : Bool :=
  c = ']' && !(p.opening && p.level.parts.count = 0)

/-- Reads a set to its end and gives how deep it is nested. -/
def read (f : Flags) (p : SetProgress) (cs : List Char) : Option (Nat × List Char) :=
  match h : f.skip cs with
  | [] => none
  | c :: rest =>
    have : rest.length < cs.length := f.length_lt_of_skip h
    if p.closes c then
      match p.outer with
      | [] => some (p.level.nesting + 1, rest)
      | around :: outer => read f ⟨outer, around.add (p.level.nesting + 1), false⟩ rest
    else
      match p.step f c rest with
      | none => none
      | some (q, left) => if left.length < cs.length then read f q left else none
termination_by cs.length

end SetProgress

/-- Reads a set, its opening bracket being read, and gives how deep it is nested. -/
def readSet (f : Flags) (cs : List Char) : Option (Nat × List Char) := do
  let (p, rest) ← SetProgress.start f [] cs
  p.read f rest

end Ixo.Log.Pattern
