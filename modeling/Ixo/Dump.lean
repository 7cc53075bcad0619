import Ixo.Json
import Ixo.Token.Basic

/-!
# Dumps

A list of tokens as a text or as JSON. The text dump has one line for each token: the label of its
kind in a column, and its text as it is. A line break inside a text goes into the dump as it is too.
The JSON dump is an array of objects, in its written form.
-/

set_option autoImplicit false

namespace Ixo

/-! ## Text -/

/-- The width of the column that holds the label. -/
def labelWidth : Nat := 15

/-- The line of a token, without the line break at its end. -/
def Token.line (t : Token) : String :=
  "Token: " ++ String.ofList (t.kind.label.toList.rightpad labelWidth ' ') ++ "Value = " ++ t.text

/-- The text dump of a list of tokens. -/
def textDump (ts : List Token) : String := String.join (ts.map fun t => t.line ++ "\n")

/-! ## JSON -/

def Span.toJson (s : Span) : Json :=
  .object [("offset", .number s.offset), ("len", .number s.len)]

def Token.toJson (t : Token) : Json :=
  .object [("kind", .string t.kind.key), ("text", .string t.text), ("span", t.span.toJson)]

/-- The JSON dump of a list of tokens. It has no line break at its end. -/
def jsonDump (ts : List Token) : String :=
  String.ofList ((Json.array (ts.map Token.toJson)).pretty 0)

end Ixo
