import Ixo.Command.Source
import Ixo.Dump
import Ixo.Log.Event

/-!
# Running the command

What the command does with its arguments: it either shows help, refuses its arguments, cannot read
its source, refuses the source, or prints the tokens. Only the last and help write output, and both
in full. A filter for the log that cannot be cut into its parts breaks the command off before any
of this.
-/

set_option autoImplicit false

namespace Ixo.Command

/-- What the command leaves behind. -/
structure Outcome where
  exitCode : Nat
  output : String
  error : Option String
  /-- What is wrong with the source. -/
  diagnostics : List Diagnostic
  /-- What is wrong with the filter for the log. This is told before anything else. -/
  notices : List String
  log : List String

/-- The output for a list of tokens. -/
def Format.render : Format → List Token → String
  | text, ts => textDump ts
  | json, ts => jsonDump ts ++ "\n"

namespace Outcome

def help : Outcome := ⟨0, helpText, none, [], [], []⟩

def refused (e : UsageError) : Outcome := ⟨2, "", some e.headline, [], [], []⟩

/-- The outcome where the filter for the log is torn. -/
def broken : Outcome := ⟨101, "", none, [], [], []⟩

def unread (origin : Origin) (failure : ReadFailure) : Outcome :=
  ⟨1, "", some ("Error: " ++ origin.reading ++ "\n\nCaused by:\n    " ++ failure.cause),
    [], [], []⟩

/-- The outcome of scanning a source that has been read. -/
def scanned (request : Request) (filter : Option String) (source : String) : Outcome :=
  let scan := Scan.of request.mode source
  let log := filter.elim [] fun text => scan.log (.ofText text)
  match scan.outcome with
  | .ok tokens => ⟨0, request.format.render tokens, none, [], [], log⟩
  | .error ds =>
    ⟨1, "", some ("Error: " ++ decimal ds.length ++ " error(s)"),
      ds.map (·.attach ⟨request.origin.name, source⟩), [], log⟩

/-- Adds the notices about a filter. -/
def noting (o : Outcome) (filter : Option String) : Outcome :=
  ⟨o.exitCode, o.output, o.error, o.diagnostics, filter.elim [] Log.Filter.notices, o.log⟩

end Outcome

/-- Answers a request with what reading its source gave. -/
def Request.answer (request : Request) (filter : Option String)
    (source : Except ReadFailure String) : Outcome :=
  match source with
  | .error failure => .unread request.origin failure
  | .ok source => .scanned request filter source

namespace Access

variable {m : Type → Type} [Monad m]

/-- Answers what the arguments ask for. -/
def answer (a : Access m) (arguments : List String) (filter : Option String) : m Outcome :=
  match readArguments arguments with
  | .error e => return .refused e
  | .ok .help => return .help
  | .ok (.scan request) => return request.answer filter (← a.read request.origin)

/-- Runs the command. A torn filter breaks it off before it has read anything. -/
def run (a : Access m) (arguments : List String) : m Outcome := do
  let filter ← a.filter
  if filter.any Log.Filter.isTorn then return .broken
  return (← a.answer arguments filter).noting filter

end Access

/-- Runs the command in surroundings that are known beforehand. -/
def run (arguments : List String) (s : Surroundings) : Outcome := (s.access.run arguments).run

end Ixo.Command
