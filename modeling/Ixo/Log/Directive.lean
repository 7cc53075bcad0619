import Ixo.Alphabet
import Ixo.Log.Level
import Ixo.Log.Pattern
import Ixo.Unicode.Alphabetic
import Ixo.Unicode.Ranges

/-!
# Directives

A directive says how much detail is let through and where. It is a threshold for everything, or
it is written

    target[span{field=value}]=threshold

where every part may be left out: a target, which holds for all targets that start with it, the
name of a span, and a field with the value that is asked of it. Without a threshold all detail
is let through.
-/

set_option autoImplicit false

namespace Ixo.Log

/-- The values that fields of spans have. -/
inductive Value where
  | truth (b : Bool)
  | number (n : Nat)
  deriving DecidableEq

/-- What a directive asks of the value of a field. -/
inductive Wanted where
  | anything
  | exactly (v : Value)
  /-- A fraction, a negative number or a pattern, none of which fits a value. -/
  | noValue
  deriving DecidableEq

def Wanted.fits : Wanted → Value → Bool
  | anything, _ => true
  | exactly v, w => v = w
  | noValue, _ => false

structure FieldTest where
  name : String
  wanted : Wanted
  deriving DecidableEq

structure Directive where
  target : Option String
  span : Option String
  field : Option FieldTest
  threshold : Threshold
  deriving DecidableEq

/-- Why a directive cannot be read. -/
inductive DirectiveError where
  | malformed
  | unknownThreshold
  /-- A part begins or ends inside a character. Nothing can be done with such a filter. -/
  | torn
  | pattern (fault : Pattern.Fault)
  deriving DecidableEq

def DirectiveError.message : DirectiveError → String
  | malformed => "invalid filter directive"
  | unknownThreshold =>
    "error parsing level filter: expected one of \"off\", \"error\", \"warn\", \"info\", " ++
      "\"debug\", \"trace\", or a number 0-5"
  | torn => "a part begins or ends inside a character"
  | pattern .malformed => "invalid field filter: error building NFA"
  | pattern .wordEdge =>
    "invalid field filter: unsupported regex feature for DFAs: cannot build DFAs for regexes " ++
      "with Unicode word boundaries; switch to ASCII word boundaries, or heuristically enable " ++
      "Unicode word boundaries or use a different regex engine"

/-! ## Values -/

/-- Whether a text is a number that is no natural number of 64 bits: a fraction, a number with a
minus sign, one that is too large, an infinity or the absence of a number. -/
def isOtherNumber (cs : List Char) : Bool :=
  let magnitude := match cs with
    | '+' :: ds | '-' :: ds => ds
    | ds => ds
  isFraction magnitude ||
    ["inf", "infinity", "nan"].contains (String.ofList (magnitude.map Char.toLower))

/-- Reads the value that is asked of a field. What is neither a truth value nor a number is a
pattern. -/
def Wanted.ofText (cs : List Char) : Except DirectiveError Wanted :=
  if cs = "true".toList then .ok (.exactly (.truth true))
  else if cs = "false".toList then .ok (.exactly (.truth false))
  else
    match (readDecimal? cs).filter (· < UInt64.size) with
    | some n => .ok (.exactly (.number n))
    | none =>
      if isOtherNumber cs then .ok .noValue
      else match Pattern.fault? cs with
        | none => .ok .noValue
        | some fault => .error (.pattern fault)

/-- Reads the name of a field and, after the first equals sign, the value that is asked of it.
A second one ends the value. -/
def FieldTest.ofText (cs : List Char) : Except DirectiveError FieldTest := do
  let name := String.ofList (cs.takeWhile (· != '='))
  match cs.dropWhile (· != '=') with
  | [] => return ⟨name, .anything⟩
  | _ :: value => return ⟨name, ← Wanted.ofText (value.takeWhile (· != '='))⟩

/-! ## The parts of a directive -/

/-- A text without the white space at its start and its end. -/
def trim (cs : List Char) : List Char :=
  ((cs.dropWhile Unicode.isWhiteSpace).reverse.dropWhile Unicode.isWhiteSpace).reverse

/-- The characters with which a directive can start, the bracket of a span apart. -/
def startsTarget (c : Char) : Bool :=
  ['-', ':', '_'].contains c || Unicode.isAlphabetic c || Unicode.isNumeric c

/-- What follows the first `n` bytes of a text, unless they end inside a character. -/
def dropBytes? (n : Nat) : List Char → Option (List Char)
  | [] => if n = 0 then some [] else none
  | c :: cs =>
    if n = 0 then some (c :: cs)
    else if n < c.utf8Size then none
    else dropBytes? (n - c.utf8Size) cs

/-- The first `n` bytes of a text, unless they end inside a character. -/
def takeBytes? (n : Nat) : List Char → Option (List Char)
  | [] => if n = 0 then some [] else none
  | c :: cs =>
    if n = 0 then some []
    else if n < c.utf8Size then none
    else (takeBytes? (n - c.utf8Size) cs).map (c :: ·)

/-- A directive that is being read. Its parts are found in the directive without the white space
around it, and are then cut at the same bytes out of the directive as it is written, so white
space in front moves every part. -/
structure Cursor where
  /-- The directive as it is written. -/
  written : List Char
  /-- The number of bytes that have been read. -/
  offset : Nat
  /-- What is left to read. -/
  rest : List Char

namespace Cursor

/-- Moves over characters as long as a condition holds. -/
def skip (s : Cursor) (holds : Char → Bool) : Cursor :=
  ⟨s.written, s.offset + byteLength (s.rest.takeWhile holds), s.rest.dropWhile holds⟩

/-- Moves over one character, if there is one. -/
def next (s : Cursor) : Cursor :=
  ⟨s.written, s.offset + byteLength (s.rest.take 1), s.rest.drop 1⟩

/-- All that is written from here on. -/
def remainder (s : Cursor) : Except DirectiveError (List Char) :=
  match dropBytes? s.offset s.written with
  | some cs => .ok cs
  | none => .error .torn

/-- What is written from here up to a later place. -/
def upTo (s e : Cursor) : Except DirectiveError (List Char) := do
  match takeBytes? (e.offset - s.offset) (← s.remainder) with
  | some cs => return cs
  | none => throw .torn

/-- Reads the threshold. -/
def threshold (s : Cursor) : Except DirectiveError Threshold := do
  match ← s.remainder with
  | [] => return .upTo .trace
  | cs =>
    match Threshold.ofText? cs with
    | some t => return t
    | none => throw .unknownThreshold

/-- Reads what follows the bracket that closes a span. -/
def afterSpan (s : Cursor) : Except DirectiveError Threshold :=
  match s.rest with
  | [] => .ok (.upTo .trace)
  | '=' :: _ => s.next.threshold
  | _ => .error .malformed

/-- Reads a span, its opening bracket being read, and the threshold. -/
def span (s : Cursor) (target : Option String) : Except DirectiveError Directive := do
  let e := s.skip fun c => c != ']' && c != '\x7b'
  match e.rest with
  | [] => throw .malformed
  | ']' :: _ =>
    let name ← s.upTo e
    return ⟨target, some (String.ofList name), none, ← e.next.afterSpan⟩
  | _ =>
    let name ← s.upTo e
    let span := if name.isEmpty then none else some (String.ofList name)
    let s := e.next
    let e := s.skip (· != '\x7d')
    if e.rest.isEmpty then throw .malformed
    let field ← s.upTo e
    if field.isEmpty then throw .malformed
    let field ← FieldTest.ofText field
    let s := e.next
    if s.rest.head? != some ']' then throw .malformed
    return ⟨target, span, some field, ← s.next.afterSpan⟩

/-- Reads a directive that starts with a target or is a threshold. -/
def target (s : Cursor) : Except DirectiveError Directive := do
  let e := s.skip fun c => c != '=' && c != '['
  match e.rest with
  | [] =>
    let text ← s.remainder
    match Threshold.ofText? text with
    | some t => return ⟨none, none, none, t⟩
    | none => return ⟨some (String.ofList text), none, none, .upTo .trace⟩
  | '=' :: _ =>
    let name ← s.upTo e
    return ⟨some (String.ofList name), none, none, ← e.next.threshold⟩
  | _ =>
    let name ← s.upTo e
    e.next.span (some (String.ofList name))

end Cursor

/-- Reads a directive. -/
def Directive.ofText (cs : List Char) : Except DirectiveError Directive :=
  let s : Cursor := ⟨cs, 0, trim cs⟩
  match s.rest with
  | [] => .error .malformed
  | '[' :: _ => s.next.span none
  | c :: _ => if startsTarget c then s.target else .error .malformed

end Ixo.Log
