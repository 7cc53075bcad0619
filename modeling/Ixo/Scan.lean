import Ixo.Diagnostic
import Ixo.Reading

/-!
# Scans

A scan lays a reading along the source: every lexeme becomes a token with its span, every place
that could not be read a diagnostic. What was found is kept in the order of the source, and the
outcome, the tokens or the diagnostics, is taken from it.
-/

set_option autoImplicit false

namespace Ixo

/-- One thing found in a source. -/
inductive Finding where
  | token (t : Token)
  | diagnostic (d : Diagnostic)
  deriving DecidableEq

namespace Finding

def token? : Finding → Option Token
  | token t => some t
  | diagnostic _ => none

def diagnostic? : Finding → Option Diagnostic
  | token _ => none
  | diagnostic d => some d

end Finding

/-- What a reading found, its first character standing at `offset`. -/
def Reading.findings (offset : Nat) : Reading → List Finding
  | .done _ => []
  | .lexeme gap l next =>
    let start := offset + byteLength gap
    .token (l.token start) :: next.findings (start + l.size)
  | .unclosed gap quote literal =>
    let start := offset + byteLength gap
    [.diagnostic ((Fault.unterminatedLiteral quote).diagnostic ⟨start, byteLength literal⟩)]
  | .unmatched gap found next =>
    let start := offset + byteLength gap
    .diagnostic ((Fault.unmatched found).diagnostic ⟨start, found.utf8Size⟩) ::
      next.findings (start + found.utf8Size)

/-- A finished scan. -/
structure Scan where
  mode : Mode
  /-- The length of the source in bytes. -/
  size : Nat
  findings : List Finding

namespace Scan

/-- Scans a source with a list of rules. -/
def withRules (rules : List Rule) (mode : Mode) (source : String) : Scan where
  mode := mode
  size := byteLength source.toList
  findings := (Reading.of mode rules source.toList).findings 0

/-- Scans a source. -/
def of (mode : Mode) (source : String) : Scan := withRules Rule.inOrder mode source

def tokens (s : Scan) : List Token := s.findings.filterMap Finding.token?

def diagnostics (s : Scan) : List Diagnostic := s.findings.filterMap Finding.diagnostic?

/-- The tokens of a scan that found nothing wrong, and otherwise all that it found wrong. -/
def outcome (s : Scan) : Except (List Diagnostic) (List Token) :=
  match s.diagnostics with
  | [] => .ok s.tokens
  | ds => .error ds

end Scan

/-- The tokens of a source, or what is wrong with it. -/
def scan (mode : Mode) (source : String) : Except (List Diagnostic) (List Token) :=
  (Scan.of mode source).outcome

end Ixo
