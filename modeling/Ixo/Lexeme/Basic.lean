import Ixo.Alphabet
import Ixo.Token.Basic

/-!
# Lexemes

A lexeme is a piece of source with the form of one token. It keeps every character it was
read from, so that `Lexeme.spelling` gives the piece back; what it says as a token is its
`kind` and its `text`.
-/

set_option autoImplicit false

namespace Ixo

/-- The forms a piece of source can have. -/
inductive Lexeme where
  /-- A comment: `#` and the rest of the line. -/
  | comment (body : List Char)
  | word (spelling : List Char)
  | number (spelling : List Char)
  /-- A literal: a quote, a body without that quote, and the quote again unless the source
  ended first. -/
  | literal (quote : Char) (body : List Char) (closed : Bool)
  | bracket (c : Char)
  | punctuation (c : Char)
  | operator (spelling : List Char)
  /-- A character that no other form can start with. -/
  | unknown (c : Char)
  deriving DecidableEq

namespace Lexeme

/-- The characters of the source that a lexeme stands for, all of them and in order. -/
def spelling : Lexeme → List Char
  | comment body => '#' :: body
  | word cs => cs
  | number cs => cs
  | literal quote body closed => quote :: (body ++ if closed then [quote] else [])
  | bracket c => [c]
  | punctuation c => [c]
  | operator cs => cs
  | unknown c => [c]

/-- The kind of token a lexeme makes. Braces are block markers, the other brackets
delimiters. -/
def kind : Lexeme → Kind
  | comment _ => .comment
  | word cs => .ofWord (String.ofList cs)
  | number _ => .number
  | literal .. => .string
  | bracket c => if c = '\x7b' then .blockStart else if c = '\x7d' then .blockEnd else .delimiter
  | punctuation _ => .punctuation
  | operator _ => .operator
  | unknown _ => .unknown

/-- What a lexeme says: its spelling, but for a literal only the body. -/
def text : Lexeme → List Char
  | literal _ body _ => body
  | l => l.spelling

/-- The length of a lexeme in the source, in bytes. -/
def size (l : Lexeme) : Nat := byteLength l.spelling

/-- The token of a lexeme that starts at `offset`. -/
def token (l : Lexeme) (offset : Nat) : Token where
  kind := l.kind
  text := String.ofList l.text
  span := ⟨offset, l.size⟩

end Lexeme

end Ixo
