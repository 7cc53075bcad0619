import Ixo.Text.Decimal

/-!
# Levels

How much detail an event is, and how much detail is asked for.
-/

set_option autoImplicit false

namespace Ixo.Log

/-- The levels of events, from the gravest to the most detailed. -/
inductive Level where
  | error
  | warn
  | info
  | debug
  | trace
  deriving DecidableEq

namespace Level

def detail : Level → Nat
  | error => 1
  | warn => 2
  | info => 3
  | debug => 4
  | trace => 5

def name : Level → String
  | error => "ERROR"
  | warn => "WARN"
  | info => "INFO"
  | debug => "DEBUG"
  | trace => "TRACE"

end Level

/-- The most detailed level that is let through, or that none is. -/
inductive Threshold where
  | off
  | upTo (level : Level)
  deriving DecidableEq

namespace Threshold

def admits : Threshold → Level → Bool
  | off, _ => false
  | upTo most, level => level.detail ≤ most.detail

/-- The threshold that lets more through. -/
def max : Threshold → Threshold → Threshold
  | off, t => t
  | t, off => t
  | upTo a, upTo b => upTo (if a.detail < b.detail then b else a)

/-- The thresholds by number, from the one that lets nothing through. -/
def byNumber : List Threshold :=
  [off, upTo .error, upTo .warn, upTo .info, upTo .debug, upTo .trace]

/-- The thresholds by name. -/
def byName : List (String × Threshold) :=
  [("off", off), ("error", upTo .error), ("warn", upTo .warn), ("info", upTo .info),
    ("debug", upTo .debug), ("trace", upTo .trace)]

/-- Reads a threshold: a number, or a name in any letter case. -/
def ofText? (cs : List Char) : Option Threshold :=
  match readDecimal? cs with
  | some n => byNumber[n]?
  | none => byName.lookup (String.ofList (cs.map Char.toLower))

end Threshold

end Ixo.Log
