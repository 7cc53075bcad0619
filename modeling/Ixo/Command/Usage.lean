import Ixo.Text.Plain
import Ixo.Text.Split

/-!
# Usage

The parameters of the command, what can be wrong with its arguments, and its help text.
-/

set_option autoImplicit false

namespace Ixo.Command

/-- What arguments can set. -/
inductive Parameter where
  | demo
  | strict
  | format
  | help
  | file
  deriving DecidableEq

/-- A parameter as messages show it, with the place of its value. -/
def Parameter.usage : Parameter → String
  | demo => "--demo"
  | strict => "--strict"
  | format => "--format <FORMAT>"
  | help => "--help"
  | file => "[FILE]"

/-- What can be wrong with the arguments. -/
inductive UsageError where
  /-- An unknown option, or one operand too many. -/
  | unexpectedArgument (argument : String)
  | valueRequired (parameter : Parameter)
  | invalidValue (parameter : Parameter) (value : String)
  | repeated (parameter : Parameter)
  /-- A value for a parameter that takes none. -/
  | unexpectedValue (parameter : Parameter) (value : String)
  /-- Two parameters that exclude each other, in the order in which they were given. -/
  | conflict (first second : Parameter)
  deriving DecidableEq

/-- The text of an error. Arguments stand in it as plain text, which may hold line breaks. -/
def UsageError.message : UsageError → String
  | unexpectedArgument argument => "error: unexpected argument '" ++ plain argument ++ "' found"
  | valueRequired p =>
    "error: a value is required for '" ++ p.usage ++ "' but none was supplied"
  | invalidValue p value =>
    "error: invalid value '" ++ plain value ++ "' for '" ++ p.usage ++ "'"
  | repeated p => "error: the argument '" ++ p.usage ++ "' cannot be used multiple times"
  | unexpectedValue p value =>
    "error: unexpected value '" ++ plain value ++ "' for '" ++ p.usage ++
      "' found; no more were expected"
  | conflict first second =>
    "error: the argument '" ++ first.usage ++ "' cannot be used with '" ++ second.usage ++ "'"

/-- The first line of the text of an error. -/
def UsageError.headline (e : UsageError) : String :=
  String.ofList (firstLine e.message.toList)

/-- The help text. -/
def helpText : String :=
  String.intercalate "\n"
    ["Tokenize Ixo source and print the token stream",
     "",
     "Usage: ixo-lex [OPTIONS] [FILE]",
     "",
     "Arguments:",
     "  [FILE]  Ixo source file to scan (omit to read standard input)",
     "",
     "Options:",
     "      --demo             Scan the bundled sample program instead of a file",
     "      --strict           Reject string literals that are missing their closing quote",
     "      --format <FORMAT>  Token output format [default: text] [possible values: text, json]",
     "  -h, --help             Print help",
     ""]

end Ixo.Command
