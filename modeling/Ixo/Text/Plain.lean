/-!
# Plain text

What is left of a text when everything is taken out that would control a terminal: control
characters, and the sequences that an escape character opens. Tabs, line breaks, form feeds and
carriage returns are not taken out. Where one of them stands inside a sequence that is not a
string, it interrupts the sequence: what follows is shown, up to the next control character.
-/

set_option autoImplicit false

namespace Ixo.Plain

/-- Where a text stands with regard to control sequences. -/
inductive Stage where
  /-- Outside of them. -/
  | outside
  /-- After the escape character. -/
  | escape
  | escapeIntermediate
  /-- In a control sequence, which its first letter or sign from `@` on ends. -/
  | control
  | deviceEntry
  | deviceParameter
  | deviceIntermediate
  /-- In the string of a device control sequence. -/
  | deviceString
  /-- In a command to the operating system. The bell ends it. -/
  | command
  /-- In a string of any other kind. -/
  | message
  deriving DecidableEq

/-- The control characters that are shown. -/
def isLayout (c : Char) : Bool := ['\t', '\n', '\x0c', '\r'].contains c

def isDelete (c : Char) : Bool := c = '\x7f'

/-- The control characters of ASCII. -/
def isControl (c : Char) : Bool := c < ' ' || isDelete c

def isAscii (c : Char) : Bool := c.toNat < 0x80

/-- The bytes of a character are looked at singly inside a string, and the byte `9C`, which is
the string terminator in sets of eight bits, ends it. -/
def holdsTerminator (c : Char) : Bool := !isAscii c && (String.utf8EncodeChar c).contains 0x9c

namespace Stage

/-- The stages in which a layout character is shown and interrupts the sequence. -/
def isInterruptible : Stage → Bool
  | escape | escapeIntermediate | control => true
  | _ => false

/-- The stage after a character that is not shown. -/
def after (s : Stage) (c : Char) : Stage :=
  match s with
  | outside => outside
  | escape =>
    if isControl c || !isAscii c then escape
    else if c ≤ '/' then escapeIntermediate
    else if c = '[' then control
    else if c = ']' then command
    else if c = 'P' then deviceEntry
    else if ['X', '^', '_'].contains c then message
    else outside
  | escapeIntermediate =>
    if isControl c || !isAscii c || c ≤ '/' then escapeIntermediate else outside
  | control => if isControl c || !isAscii c || c ≤ '?' then control else outside
  | deviceEntry =>
    if isControl c || !isAscii c then deviceEntry
    else if c ≤ '/' then deviceIntermediate
    else if c ≤ '?' then deviceParameter
    else deviceString
  | deviceParameter =>
    if isControl c || !isAscii c then deviceParameter
    else if c ≤ '/' then deviceIntermediate
    else if c ≤ ';' then deviceParameter
    else deviceString
  | deviceIntermediate =>
    if isControl c || !isAscii c || c ≤ '/' then deviceIntermediate else deviceString
  | deviceString => if holdsTerminator c then outside else deviceString
  | command => if c = '\x07' then outside else command
  | message => if holdsTerminator c then outside else message

end Stage

/-- What is shown of a text that starts at a stage. The text may be `shown` at a stage inside a
sequence, where the sequence has been interrupted. -/
def visible (shown : Bool) (s : Stage) : List Char → List Char
  | [] => []
  | c :: cs =>
    if c = '\x1b' then visible false .escape cs
    else if c = '\x18' || c = '\x1a' then visible false .outside cs
    else if isLayout c && (shown || s = .outside || s.isInterruptible) then
      c :: visible true s cs
    else if !isControl c && (shown || s = .outside) then
      c :: visible true (if isAscii c then s else .outside) cs
    else visible false (s.after c) cs

end Ixo.Plain

namespace Ixo

/-- A text without what would control a terminal. -/
def plain (text : String) : String := String.ofList (Plain.visible true .outside text.toList)

end Ixo
