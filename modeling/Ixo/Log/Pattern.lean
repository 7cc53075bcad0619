import Ixo.Log.Pattern.Set
import Ixo.Unicode.Alphabetic
import Ixo.Unicode.Ranges

/-!
# Patterns

The form of the patterns that a filter can ask of a field: atoms, sets of characters, groups,
alternatives and repetition. Only the form matters, because the fields of a scan are no texts and
no pattern fits them. The comma, the equals sign and the closing brace cannot stand in a pattern,
so no brace can be opened.
-/

set_option autoImplicit false

namespace Ixo.Log.Pattern

/-- What is wrong with a pattern. -/
inductive Fault where
  | malformed
  /-- It asks for the edge of a word, and which characters make words is not known. -/
  | wordEdge
  deriving DecidableEq

/-- How deep a pattern may be nested. -/
def maxNesting : Nat := 250

/-- A group that is being read, or the whole pattern, without the groups inside it. -/
structure GroupLevel where
  /-- How deep the alternatives before the last bar are nested, if there is a bar. -/
  alternatives : Option Nat
  /-- The parts after it. -/
  parts : Parts
  /-- How deep the last part is nested, if it can be repeated. -/
  last : Option Nat

namespace GroupLevel

def empty : GroupLevel := ⟨none, .empty, none⟩

def add (l : GroupLevel) (depth : Nat) : GroupLevel :=
  ⟨l.alternatives, l.parts.add depth, some depth⟩

/-- Adds a change of flags, which cannot be repeated. -/
def addChange (l : GroupLevel) : GroupLevel := ⟨l.alternatives, l.parts.add 0, none⟩

/-- Repeats the last part. -/
def repeatLast (l : GroupLevel) : Option GroupLevel :=
  l.last.map fun depth =>
    ⟨l.alternatives, ⟨l.parts.count, max l.parts.depth (depth + 1)⟩, some (depth + 1)⟩

/-- A group after a bar. -/
def bar (l : GroupLevel) : GroupLevel :=
  ⟨some (max (l.alternatives.getD 0) l.parts.nesting), .empty, none⟩

/-- How deep what has been read is nested. -/
def nesting (l : GroupLevel) : Nat :=
  l.alternatives.elim l.parts.nesting fun depth => max depth l.parts.nesting + 1

end GroupLevel

/-! ## Names of groups -/

def startsName (c : Char) : Bool := c = '_' || Unicode.isAlphabetic c

def continuesName (c : Char) : Bool :=
  ['_', '.', '[', ']'].contains c || Unicode.isAlphabetic c || Unicode.isNumeric c

/-- Reads the name of a group and the sign that closes it. -/
def readName (cs : List Char) : Option (List Char × List Char) :=
  match cs.takeWhile (· != '>'), cs.dropWhile (· != '>') with
  | c :: name, _ :: rest =>
    if startsName c && name.all continuesName then some (c :: name, rest) else none
  | _, _ => none

/-! ## Reading -/

/-- How far a pattern has been read. -/
structure Progress where
  /-- What is around the innermost group, from the inside out, with the flags that hold there. -/
  outer : List (GroupLevel × Flags)
  /-- The innermost group. -/
  level : GroupLevel
  flags : Flags
  /-- The names of groups. -/
  names : List (List Char)
  /-- Whether the edge of a word has been asked for, as a matter of Unicode. -/
  wordEdge : Bool

namespace Progress

def start : Progress := ⟨[], .empty, .initial, [], false⟩

def withLevel (p : Progress) (l : GroupLevel) : Progress := { p with level := l }

def add (p : Progress) (depth : Nat) : Progress := p.withLevel (p.level.add depth)

def addAtom (p : Progress) (a : Atom) : Option Progress :=
  if a.isValid p.flags then
    some { p.add 0 with wordEdge := p.wordEdge || a = .wordEdge && p.flags.unicode }
  else none

/-- Opens a group with flags of its own. -/
def openGroup (p : Progress) (flags : Flags) : Progress :=
  { p with outer := (p.level, p.flags) :: p.outer, level := .empty, flags }

/-- Closes the innermost group, and with it the reach of its flags. -/
def closeGroup (p : Progress) : Option Progress :=
  match p.outer with
  | [] => none
  | (around, flags) :: outer =>
    some { p with outer, level := around.add (p.level.nesting + 1), flags }

/-- Opens a group with a name, which no other group may have. -/
def openNamed (p : Progress) (cs : List Char) : Option (Progress × List Char) := do
  let (name, rest) ← readName cs
  if p.names.contains name then none
  else some ({ p.openGroup p.flags with names := name :: p.names }, rest)

/-- Reads a change of flags, for a group or for the rest of the one it stands in. -/
def readChange (p : Progress) (cs : List Char) : Option (Progress × List Char) :=
  let isEnd (c : Char) : Bool := c = ':' || c = ')'
  let change := cs.takeWhile (!isEnd ·)
  let flags := p.flags.change change
  if !Flags.isChange change then none
  else match cs.dropWhile (!isEnd ·) with
    | [] => none
    | c :: rest =>
      if c = ':' then some (p.openGroup flags, rest)
      else if change.isEmpty then none
      else some ({ p with level := p.level.addChange, flags }, rest)

/-- Reads what follows an opening parenthesis. -/
def readGroup (p : Progress) (cs : List Char) : Option (Progress × List Char) :=
  match p.flags.skip cs with
  | '?' :: 'P' :: '<' :: cs => p.openNamed cs
  | '?' :: '<' :: cs => p.openNamed cs
  | '?' :: cs => p.readChange cs
  | cs => some (p.openGroup p.flags, cs)

/-- Reads a part of a pattern, or a sign that opens or ends one. -/
def step (p : Progress) (c : Char) (cs : List Char) : Option (Progress × List Char) :=
  let alone (a : Atom) := (p.addAtom a).map (·, cs)
  match c with
  | '(' => p.readGroup cs
  | ')' => p.closeGroup.map (·, cs)
  | '|' => some (p.withLevel p.level.bar, cs)
  | '[' => (readSet p.flags cs).map fun (depth, rest) => (p.add depth, rest)
  | '\x7b' => none
  | '*' | '+' | '?' =>
    p.level.repeatLast.map fun l =>
      (p.withLevel l, if cs.head? = some '?' then cs.drop 1 else cs)
  | '\\' => do
    let (a, rest) ← Atom.readEscape p.flags cs
    (p.addAtom a).map (·, rest)
  | '.' => alone .any
  | '^' | '$' => alone .edge
  | c => alone (.literal c false)

/-- What is wrong with a pattern that has been read to its end. -/
def fault? (p : Progress) : Option Fault :=
  if !p.outer.isEmpty || maxNesting < p.level.nesting then some .malformed
  else if p.wordEdge then some .wordEdge
  else none

/-- Reads a pattern to its end. -/
def read (p : Progress) (cs : List Char) : Option Fault :=
  match p.flags.skip cs with
  | [] => p.fault?
  | c :: rest =>
    match p.step c rest with
    | none => some .malformed
    | some (q, left) => if left.length < cs.length then q.read left else some .malformed
termination_by cs.length

end Progress

/-- What is wrong with a pattern, if anything is. -/
def fault? (cs : List Char) : Option Fault := Progress.start.read cs

end Ixo.Log.Pattern
