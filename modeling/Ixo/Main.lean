import Ixo.Command.Run

/-!
# The program

Runs the command on the system, and writes what it leaves behind.
-/

set_option autoImplicit false

namespace Ixo

open Command

/-- Reads a stream to its end, after what has been read of it. -/
partial def readToEnd (stream : IO.FS.Stream) (start : ByteArray) : IO ByteArray := do
  let bytes ← stream.read 65536
  if bytes.isEmpty then return start else readToEnd stream (start ++ bytes)

/-- The number of a system error. The system gives it as it is or negated. -/
def errorNumber (code : UInt32) : Nat := code.toInt32.toInt.natAbs

/-- The cause of a failure to read. -/
def readFailure (e : IO.Error) : ReadFailure :=
  match e with
  | .noFileOrDirectory .. => .missing
  | .permissionDenied .. => .other "Permission denied (os error 13)"
  | .inappropriateType _ code _ =>
    if errorNumber code = 20 then .notADirectory else .isADirectory
  | .invalidArgument _ code _ =>
    if errorNumber code = 36 then .nameTooLong else .other (toString e)
  | _ => .other (toString e)

/-- What reading gives, or why it fails. -/
def attempt (read : IO ByteArray) : IO (Except ReadFailure ByteArray) := do
  try
    return .ok (← read)
  catch e =>
    return .error (readFailure e)

/-- The system itself, where a variable may hold a filter for the log. -/
def system : Access IO where
  readFile path := attempt (IO.FS.readBinFile path)
  readStandardInput := attempt do readToEnd (← IO.getStdin) .empty
  filter := IO.getEnv "RUST_LOG"

/-- The lines that tell of a diagnostic. -/
def report (d : Diagnostic) : List String :=
  [d.code ++ ": " ++ d.message,
    "  at byte " ++ decimal d.span.offset ++ " of " ++ d.source.name] ++
    d.help?.toList.map ("  help: " ++ ·)

end Ixo

def main (arguments : List String) : IO UInt32 := do
  let outcome ← Ixo.system.run arguments
  let faults := outcome.diagnostics.flatMap Ixo.report
  for line in outcome.notices ++ outcome.log ++ faults ++ outcome.error.toList do
    IO.eprintln line
  IO.print outcome.output
  return outcome.exitCode.toUInt32
