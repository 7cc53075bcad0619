import Ixo.Log.Filter
import Ixo.Scan
import Ixo.Text.Decimal

/-!
# Events of a scan

A scan logs every token it finds at the level `trace`, and at the end, at the level `debug`,
how many tokens and how many faults there were. All of this happens inside one span, which has
the length of the source and the mode as fields and stands in front of every entry.
-/

set_option autoImplicit false

namespace Ixo.Log

/-- What a scan logs. -/
inductive Event where
  | token (t : Token)
  | finished (tokens faults : Nat)
  deriving DecidableEq

namespace Event

def level : Event → Level
  | token _ => .trace
  | finished .. => .debug

/-- The part of the system that scans and their events come from. -/
def target : String := "ixo_lex::scanner::lexer"

/-- The names of the fields of an event. -/
def fields : Event → List String
  | token _ => ["message", "kind", "text", "offset"]
  | finished .. => ["message", "tokens", "errors"]

def message : Event → String
  | token t =>
    "token kind=" ++ t.kind.name ++ " text=" ++ t.text ++ " offset=" ++ decimal t.span.offset
  | finished tokens faults =>
    "scan finished tokens=" ++ decimal tokens ++ " errors=" ++ decimal faults

/-- The entry of an event in the log, after a text that tells of the span it happens in. -/
def entry (context : String) (e : Event) : String :=
  e.level.name ++ " " ++ context ++ target ++ ": " ++ e.message

end Event

/-- The value of a field in an entry. -/
def Value.text : Value → String
  | truth true => "true"
  | truth false => "false"
  | number n => decimal n

/-- A span in front of an entry. -/
def SpanContext.text (s : SpanContext) : String :=
  let fields := s.fields.map fun (name, v) => name ++ "=" ++ v.text
  s.name ++ "\x7b" ++ String.intercalate " " fields ++ "\x7d: "

end Ixo.Log

namespace Ixo.Scan

/-- The level of the span of a scan. -/
def spanLevel : Log.Level := .debug

/-- The span of a scan. -/
def span (s : Scan) : Log.SpanContext :=
  ⟨Log.Event.target, "scan_all", [("len", .number s.size), ("strict", .truth s.mode.isStrict)]⟩

/-- The events of a scan: its tokens in order, and then the end. -/
def events (s : Scan) : List Log.Event :=
  s.tokens.map .token ++ [.finished s.tokens.length s.diagnostics.length]

/-- The entries of a scan's log that a filter lets through. -/
def log (s : Scan) (filter : Log.Filter) : List String :=
  let context := if filter.shows s.span spanLevel then s.span.text else ""
  (s.events.filter fun e => filter.admits s.span Log.Event.target e.fields e.level).map
    (·.entry context)

end Ixo.Scan
