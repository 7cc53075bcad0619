import Ixo.Command.Usage
import Ixo.Mode

/-!
# Arguments

The arguments of the command are read from left to right. A value that was given for a
parameter is held until the next option, or the end, settles it, so an unknown option further
right is reported before a bad value; a value joined to its option by `=` is settled at once.
Asking for help ends the reading.
-/

set_option autoImplicit false

namespace Ixo.Command

/-- The forms of output. -/
inductive Format where
  | text
  | json
  deriving DecidableEq

def Format.ofName? (name : String) : Option Format :=
  if name = "text" then some .text else if name = "json" then some .json else none

/-- Where a source comes from. -/
inductive Origin where
  | sample
  | file (path : String)
  | standardInput
  deriving DecidableEq

/-- A scan that was asked for. -/
structure Request where
  origin : Origin
  mode : Mode
  format : Format
  deriving DecidableEq

/-- What the arguments ask for. -/
inductive Demand where
  | help
  | scan (request : Request)
  deriving DecidableEq

/-! ## The forms of an argument -/

/-- One argument, by its form. -/
inductive Argument where
  /-- Two dashes, after which everything is an operand. -/
  | separator
  /-- Two dashes and a name, with the value after `=` if there is one. -/
  | long (name : String) (value : Option String)
  /-- A dash and a letter. What follows the letter does not matter. -/
  | short (letter : Char)
  /-- Anything else, a lone dash among it. -/
  | operand (text : String)
  deriving DecidableEq

def Argument.ofText (text : String) : Argument :=
  match text.toList with
  | ['-', '-'] => .separator
  | '-' :: '-' :: cs =>
    .long (String.ofList (cs.takeWhile (· != '=')))
      ((cs.dropWhile (· != '=')).tail?.map String.ofList)
  | '-' :: c :: _ => .short c
  | _ => .operand text

/-! ## Reading -/

/-- A parameter that has been named and is not settled yet. -/
inductive Pending where
  | nothing
  | format (value : Option String)
  | file (path : String)

/-- How far the reading has come. -/
structure Progress where
  /-- The parameters that are settled, in the order in which they were given. -/
  given : List Parameter
  format : Format
  file : Option String
  pending : Pending

namespace Progress

def start : Progress := ⟨[], .text, none, .nothing⟩

/-- Notes that a parameter is settled, which may happen once. -/
def give (p : Progress) (parameter : Parameter) : Except UsageError Progress :=
  if parameter ∈ p.given then .error (.repeated parameter)
  else .ok ⟨p.given ++ [parameter], p.format, p.file, .nothing⟩

/-- Settles a value of the format. -/
def giveFormat (p : Progress) (value : String) : Except UsageError Progress := do
  let p ← p.give .format
  match Format.ofName? value with
  | some format => .ok ⟨p.given, format, p.file, .nothing⟩
  | none => .error (if value = "" then .valueRequired .format else .invalidValue .format value)

/-- Settles an operand. -/
def giveFile (p : Progress) (path : String) : Except UsageError Progress := do
  let p ← p.give .file
  if path = "" then .error (.valueRequired .file)
  else .ok ⟨p.given, p.format, some path, .nothing⟩

/-- Settles what is pending. -/
def settle (p : Progress) : Except UsageError Progress :=
  match p.pending with
  | .nothing => .ok p
  | .format none => .error (.valueRequired .format)
  | .format (some value) => p.giveFormat value
  | .file path => p.giveFile path

/-- Settles what is pending and makes something else pending. -/
def await (p : Progress) (pending : Pending) : Except UsageError Progress := do
  let p ← p.settle
  return ⟨p.given, p.format, p.file, pending⟩

/-- Whether an operand has been taken, settled or not. -/
def hasFile (p : Progress) : Bool :=
  match p.pending with
  | .file _ => true
  | _ => p.file.isSome

/-- Takes an operand, of which there may be one. -/
def takeOperand (p : Progress) (text : String) : Except UsageError Progress :=
  if p.hasFile then .error (.unexpectedArgument text) else p.await (.file text)

/-- Takes the option for the format, whose value may follow as the next argument. -/
def takeFormat (p : Progress) : Option String → Except UsageError Progress
  | none => p.await (.format none)
  | some value => do (← p.settle).giveFormat value

/-- Takes an option that has no value. -/
def takeFlag (p : Progress) (flag : Parameter) : Option String → Except UsageError Progress
  | none => do (← p.settle).give flag
  | some value => .error (.unexpectedValue flag value)

/-- Takes an argument. -/
def take (p : Progress) : Argument → Except UsageError Progress
  | .long "demo" value => p.takeFlag .demo value
  | .long "strict" value => p.takeFlag .strict value
  | .long "help" value => p.takeFlag .help value
  | .long "format" value => p.takeFormat value
  | .long name _ => .error (.unexpectedArgument ("--" ++ name))
  | .short 'h' => p.takeFlag .help none
  | .short letter => .error (.unexpectedArgument (String.ofList ['-', letter]))
  | .operand text =>
    match p.pending with
    | .format none => .ok ⟨p.given, p.format, p.file, .format (some text)⟩
    | _ => p.takeOperand text
  | .separator => .ok p

/-- What is asked for, once everything has been taken. -/
def finish (p : Progress) : Except UsageError Demand := do
  let p ← p.settle
  match p.given.filter (fun x => x = .demo ∨ x = .file) with
  | first :: second :: _ => .error (.conflict first second)
  | _ =>
    let origin := if .demo ∈ p.given then .sample else p.file.elim .standardInput .file
    let mode := if .strict ∈ p.given then .strict else .lenient
    return .scan ⟨origin, mode, p.format⟩

/-- Reads the arguments after the separator, all of which are operands. -/
def readOperands (p : Progress) : List String → Except UsageError Demand
  | [] => p.finish
  | text :: texts => do (← p.takeOperand text).readOperands texts

/-- Reads arguments up to the end, the separator or the option for help. -/
def read (p : Progress) : List String → Except UsageError Demand
  | [] => p.finish
  | text :: texts =>
    match Argument.ofText text with
    | .separator => p.readOperands texts
    | argument => do
      let p ← p.take argument
      if .help ∈ p.given then return .help else p.read texts

end Progress

/-- Reads the arguments of the command. -/
def readArguments (arguments : List String) : Except UsageError Demand :=
  Progress.start.read arguments

end Ixo.Command
