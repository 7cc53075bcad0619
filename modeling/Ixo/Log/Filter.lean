import Ixo.Log.Directive
import Ixo.Text.Split

/-!
# Filters

A filter is written as directives with commas between them; those that cannot be read are
ignored, with a notice. It lets an event through in either of two ways. A directive for a span
or for a field opens the spans that it fits, and everything inside them, up to its threshold. A
directive for no span and no value is a rule for events: of the rules that concern an event the
most specific decides.
-/

set_option autoImplicit false

namespace Ixo.Log

/-- A span as a filter sees it. -/
structure SpanContext where
  target : String
  name : String
  fields : List (String × Value)

namespace Directive

/-- Whether a directive is about a target. -/
def concerns (d : Directive) (target : String) : Bool :=
  d.target.all fun t => t.toList.isPrefixOf target.toList

/-- Whether two directives are for the same place, so that the later one replaces the other. -/
def samePlace (d e : Directive) : Bool :=
  d.target = e.target && d.span = e.span && d.field = e.field

/-! ### Opening spans -/

/-- Whether a directive is about a span: it names the span or a field of it. -/
def isAbout (d : Directive) (s : SpanContext) : Bool :=
  (d.span.isSome || d.field.isSome) && d.concerns s.target && d.span.all (· = s.name) &&
    d.field.all fun f => (s.fields.lookup f.name).isSome

/-- Whether a directive opens a span it is about: the field has the value that is asked of it. -/
def opens (d : Directive) (s : SpanContext) : Bool :=
  d.isAbout s && d.field.all fun f => (s.fields.lookup f.name).any f.wanted.fits

/-! ### Rules for events -/

/-- Whether a directive is a rule for events: it names no span and asks for no value. -/
def isRule (d : Directive) : Bool :=
  d.span.isNone && d.field.all (·.wanted = .anything)

/-- Whether a rule is more specific than another: it has the longer target, or one of the same
length and a field where the other has none, or one that comes later in the alphabet. -/
def outranks (d e : Directive) : Bool :=
  let size (x : Directive) : Nat := x.target.elim 0 fun t => t.length + 1
  size e < size d || size e = size d &&
    match d.field, e.field with
    | some _, none => true
    | some f, some g => g.name < f.name
    | none, _ => false

end Directive

abbrev Filter := List Directive

namespace Filter

/-- The directives of a filter as they are written. There is none where nothing is written. -/
def parts (text : String) : List (List Char) :=
  (splitAtEach ',' text.toList).filter (!·.isEmpty)

/-- Leaves out every directive that a later one replaces. -/
def latest : List Directive → List Directive
  | [] => []
  | d :: ds => if ds.any d.samePlace then latest ds else d :: latest ds

/-- Reads a filter. One without directives lets errors through. -/
def ofText (text : String) : Filter :=
  match (parts text).filterMap fun part => (Directive.ofText part).toOption with
  | [] => [⟨none, none, none, .upTo .error⟩]
  | directives => latest directives

/-- Whether a directive of a filter has a part that begins or ends inside a character. -/
def isTorn (text : String) : Bool :=
  (parts text).any fun part =>
    match Directive.ofText part with
    | .error .torn => true
    | _ => false

/-- The notices about the directives of a filter that cannot be read. -/
def notices (text : String) : List String :=
  (parts text).filterMap fun part =>
    match Directive.ofText part with
    | .ok _ => none
    | .error e => some ("ignoring `" ++ String.ofList part ++ "`: " ++ e.message)

/-- The most specific of some rules. -/
def mostSpecific (rules : List Directive) : Option Directive :=
  rules.foldl (fun best d => if best.all d.outranks then some d else best) none

/-- The rule for an event of a target with these fields. -/
def ruleForEvent (f : Filter) (target : String) (fields : List String) : Option Directive :=
  mostSpecific <| f.filter fun d =>
    d.isRule && d.concerns target && d.field.all (fields.contains ·.name)

/-- The rule for a span of a target. A field that a rule names is not looked for in spans. -/
def ruleForSpan (f : Filter) (target : String) : Option Directive :=
  mostSpecific <| f.filter fun d => d.isRule && d.concerns target

/-- The threshold up to which the directives for spans let through what is inside a span. -/
def opening (f : Filter) (s : SpanContext) : Threshold :=
  (f.filter (·.opens s)).foldl (fun t d => t.max d.threshold) .off

/-- Whether a filter lets an event inside a span through. -/
def admits (f : Filter) (s : SpanContext) (target : String) (fields : List String)
    (level : Level) : Bool :=
  (f.opening s).admits level || (f.ruleForEvent target fields).any (·.threshold.admits level)

/-- Whether a filter lets a span itself be seen: a directive is about it, or the rule for it lets
its level through. -/
def shows (f : Filter) (s : SpanContext) (level : Level) : Bool :=
  f.any (·.isAbout s) || (f.ruleForSpan s.target).any (·.threshold.admits level)

end Filter

end Ixo.Log
