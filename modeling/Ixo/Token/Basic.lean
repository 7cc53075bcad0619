import Ixo.Text.Decimal
import Ixo.Token.Kind

/-!
# Tokens

A token is a kind, a text and a span of the source. The text is what the token says, which for
a literal leaves out its quotes, so it may be shorter than the span.
-/

set_option autoImplicit false

namespace Ixo

/-- A stretch of a source, counted in bytes. -/
structure Span where
  offset : Nat
  len : Nat
  deriving DecidableEq

/-- The offset right after a span. It is a 64-bit number as offsets and lengths are, so a span
that would reach further has none. -/
def Span.stop? (s : Span) : Option Nat :=
  let stop := s.offset + s.len
  if stop < UInt64.size then some stop else none

structure Token where
  kind : Kind
  text : String
  span : Span
  deriving DecidableEq

/-- A token in one line: its kind, its text in quotes but otherwise as it is, and its offset. -/
def Token.describe (t : Token) : String :=
  t.kind.name ++ " '" ++ t.text ++ "' @" ++ decimal t.span.offset

end Ixo
