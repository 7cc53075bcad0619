import Ixo.Unicode.ExtendingMark
import Ixo.Unicode.Ranges
import Ixo.Unicode.Unprintable

/-!
# A character in quotes

The form in which a message shows a single character: in single quotes, as it is where a reader
can see it, and otherwise by a short escape or by its code point.
-/

set_option autoImplicit false

namespace Ixo

/-- Whether a character can be shown as it is between quotes: it is printable and is no mark
that would be drawn on the quote in front of it. -/
def isShownAsIs (c : Char) : Bool :=
  !Unicode.inRanges Unicode.unprintable c && !Unicode.inRanges Unicode.extendingMarks c

/-- What stands for a character between single quotes. The double quote needs no escape. -/
def quotedBody (c : Char) : List Char :=
  match c with
  | '\x00' => ['\\', '0']
  | '\t' => ['\\', 't']
  | '\n' => ['\\', 'n']
  | '\r' => ['\\', 'r']
  | '\'' => ['\\', '\'']
  | '\\' => ['\\', '\\']
  | c =>
    if isShownAsIs c then [c]
    else ['\\', 'u', '\x7b'] ++ Nat.toDigits 16 c.toNat ++ ['\x7d']

/-- A character in single quotes. -/
def quotedChar (c : Char) : String := String.ofList (['\''] ++ quotedBody c ++ ['\''])

end Ixo
