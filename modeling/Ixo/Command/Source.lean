import Ixo.Command.Arguments
import Ixo.Sample

/-!
# Reading the source

A source is the sample, a file or the standard input. All that the command learns from outside it
learns through an `Access`, which runs in the monad that reading takes: on a system that is `IO`,
and where everything outside is known beforehand, as in `Surroundings`, it is no effect at all.

Nothing is assumed of what reading a file gives. A path, absolute or not, may name a file of any
content, or may fail for any cause.
-/

set_option autoImplicit false

namespace Ixo.Command

/-- Why a source cannot be read. -/
inductive ReadFailure where
  | missing
  | notADirectory
  | isADirectory
  | nameTooLong
  /-- The bytes are not UTF-8. -/
  | notText
  | other (cause : String)
  deriving DecidableEq

def ReadFailure.cause : ReadFailure → String
  | missing => "No such file or directory (os error 2)"
  | notADirectory => "Not a directory (os error 20)"
  | isADirectory => "Is a directory (os error 21)"
  | nameTooLong => "File name too long (os error 36)"
  | notText => "stream did not contain valid UTF-8"
  | other cause => cause

namespace Origin

/-- The name of a source in diagnostics. -/
def name : Origin → String
  | sample => "<demo>"
  | file path => path
  | standardInput => "<stdin>"

/-- What reading a source is called when it fails. -/
def reading : Origin → String
  | sample => "read sample program"
  | file path => "read source file '" ++ path ++ "'"
  | standardInput => "read source from stdin"

end Origin

/-- The text of bytes that are UTF-8. -/
def decode (bytes : ByteArray) : Except ReadFailure String :=
  match String.fromUTF8? bytes with
  | some text => .ok text
  | none => .error .notText

/-- The ways in which the command gets at what lies outside of it. -/
structure Access (m : Type → Type) where
  readFile (path : String) : m (Except ReadFailure ByteArray)
  readStandardInput : m (Except ReadFailure ByteArray)
  /-- The filter for the log as it is written. Without one nothing is logged. -/
  filter : m (Option String)

/-- Reads the source from where it comes from, and from nowhere else. -/
def Access.read {m : Type → Type} [Monad m] (a : Access m) :
    Origin → m (Except ReadFailure String)
  | .sample => return .ok sampleProgram
  | .file path => return (← a.readFile path) >>= decode
  | .standardInput => return (← a.readStandardInput) >>= decode

/-- What the command finds outside of it: what reading gives, for every path and for the standard
input, and the filter. -/
structure Surroundings where
  readFile : String → Except ReadFailure ByteArray
  standardInput : Except ReadFailure ByteArray
  filter : Option String

namespace Surroundings

def access (s : Surroundings) : Access Id where
  readFile path := pure (s.readFile path)
  readStandardInput := pure s.standardInput
  filter := pure s.filter

def read (s : Surroundings) (origin : Origin) : Except ReadFailure String :=
  (s.access.read origin).run

end Surroundings

end Ixo.Command
