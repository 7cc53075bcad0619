/-!
# Numbers in decimal digits

Writing is exact: one form for every number. Reading allows zeros in front, and a plus sign.
-/

set_option autoImplicit false

namespace Ixo

/-- A number in decimal digits, the first of them not zero unless it is the only one. -/
def decimal (n : Nat) : String := String.ofList (Nat.toDigits 10 n)

/-- The number that decimal digits give, if there are digits and nothing else. -/
def readDigits? (cs : List Char) : Option Nat :=
  if cs.isEmpty || cs.any (!·.isDigit) then none else some (Nat.ofDigitChars 10 cs 0)

/-- Reads a number that may have a plus sign in front. -/
def readDecimal? : List Char → Option Nat
  | '+' :: cs => readDigits? cs
  | cs => readDigits? cs

/-- Whether a text is an exponent: nothing, or the letter for it, a sign or none, and digits. -/
def isExponent : List Char → Bool
  | [] => true
  | e :: cs =>
    let digits := match cs with
      | '+' :: ds | '-' :: ds => ds
      | ds => ds
    e.toLower = 'e' && (readDigits? digits).isSome

/-- Whether a text is a decimal fraction: digits, with a point among them or at an end or
without one, and an exponent. -/
def isFraction (cs : List Char) : Bool :=
  let whole := cs.takeWhile Char.isDigit
  match cs.dropWhile Char.isDigit with
  | '.' :: rest =>
    let part := rest.takeWhile Char.isDigit
    !(whole.isEmpty && part.isEmpty) && isExponent (rest.dropWhile Char.isDigit)
  | rest => !whole.isEmpty && isExponent rest

end Ixo
