/-!
# Modes

The one thing about a scan that can be chosen.
-/

set_option autoImplicit false

namespace Ixo

/-- What becomes of a literal that the end of the source leaves open. -/
inductive Mode where
  /-- The end of the source closes it. -/
  | lenient
  /-- It is an error. -/
  | strict
  deriving DecidableEq, Inhabited

def Mode.isStrict : Mode → Bool
  | .lenient => false
  | .strict => true

/-- A scan is lenient where nothing is said. -/
theorem Mode.default_eq : (default : Mode) = .lenient := rfl

end Ixo
