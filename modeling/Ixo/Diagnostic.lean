import Ixo.Text.Quoted
import Ixo.Token.Basic

/-!
# Diagnostics

What can be wrong with a source, where, and how it is told: a message, a code, help where there
is any, and labels on spans of the source. A diagnostic is made without knowing where the
source came from; the name and the text of it are attached afterwards.
-/

set_option autoImplicit false

namespace Ixo

/-- The causes of a diagnostic. -/
inductive Fault where
  /-- A literal has no closing quote. -/
  | unterminatedLiteral (quote : Char)
  /-- No rule reads anything where this character stands. -/
  | unmatched (found : Char)
  deriving DecidableEq

/-- A source as a diagnostic shows it. -/
structure NamedSource where
  name : String
  text : String
  deriving DecidableEq

/-- The source of a diagnostic to which none is attached. -/
def NamedSource.unattached : NamedSource := ⟨"input", ""⟩

structure Diagnostic where
  fault : Fault
  span : Span
  source : NamedSource
  deriving DecidableEq

/-- A remark on a span of the source. -/
structure Label where
  text : String
  span : Span
  deriving DecidableEq

namespace Fault

/-- The character a fault is about. -/
def character : Fault → Char
  | unterminatedLiteral quote => quote
  | unmatched found => found

def message : Fault → String
  | unterminatedLiteral quote =>
    "unterminated " ++ quote.toString ++ "..." ++ quote.toString ++ " literal"
  | unmatched found => "no scanning rule matched " ++ quotedChar found

def code : Fault → String
  | unterminatedLiteral _ => "ixo::unterminated_literal"
  | unmatched _ => "ixo::unreachable_state"

def help? : Fault → Option String
  | unterminatedLiteral _ => some "close the literal with the quote character that opened it"
  | unmatched _ => none

/-- What the label on the span of a fault says. -/
def remark : Fault → String
  | unterminatedLiteral _ => "literal starts here and runs to end of input"
  | unmatched _ => "here"

/-- The diagnostic of a fault at a span, with no source attached. -/
def diagnostic (fault : Fault) (span : Span) : Diagnostic := ⟨fault, span, .unattached⟩

end Fault

namespace Diagnostic

def message (d : Diagnostic) : String := d.fault.message

def code (d : Diagnostic) : String := d.fault.code

def help? (d : Diagnostic) : Option String := d.fault.help?

def labels (d : Diagnostic) : List Label := [⟨d.fault.remark, d.span⟩]

/-- Attaches a source in place of the one before. -/
def attach (d : Diagnostic) (source : NamedSource) : Diagnostic := ⟨d.fault, d.span, source⟩

end Diagnostic

end Ixo
