import Ixo.Alphabet
import Ixo.Token.Kind
import Ixo.Token.Basic
import Ixo.Mode
import Ixo.Lexeme.Basic
import Ixo.Lexeme.Rule
import Ixo.Reading
import Ixo.Text.Decimal
import Ixo.Text.Quoted
import Ixo.Text.Plain
import Ixo.Text.Split
import Ixo.Diagnostic
import Ixo.Scan
import Ixo.Json
import Ixo.Dump
import Ixo.Log.Level
import Ixo.Log.Pattern.Flags
import Ixo.Log.Pattern.Atom
import Ixo.Log.Pattern.Set
import Ixo.Log.Pattern
import Ixo.Log.Directive
import Ixo.Log.Filter
import Ixo.Log.Event
import Ixo.Sample
import Ixo.Command.Usage
import Ixo.Command.Arguments
import Ixo.Command.Source
import Ixo.Command.Directory
import Ixo.Command.Run
import Ixo.Main
import Ixo.Proofs.Lexeme.Form
import Ixo.Proofs.Lexeme.Munch
import Ixo.Proofs.Reading.Normal
import Ixo.Proofs.Reading.Append
import Ixo.Proofs.Slice
import Ixo.Proofs.Text.LineBreaks
import Ixo.Proofs.Scan.Findings
import Ixo.Proofs.Scan.Printing
import Ixo.Proofs.Scan.Classification
import Ixo.Proofs.Scan.RuleOrder
import Ixo.Proofs.Scan.Modes
import Ixo.Proofs.Scan.Tiling
import Ixo.Proofs.Scan.Junction
import Ixo.Proofs.Scan.Place
import Ixo.Proofs.Scan.Rescan
import Ixo.Proofs.Scan.Loop
import Ixo.Proofs.Scan.Concatenation
import Ixo.Proofs.Scan.Growth
import Ixo.Proofs.Scan.Opacity
import Ixo.Proofs.Scan.LineBreaks
import Ixo.Proofs.Token.Description
import Ixo.Proofs.Log.Events
import Ixo.Proofs.Json.Grammar
import Ixo.Proofs.Json.Layout
import Ixo.Proofs.Json.Reader
import Ixo.Proofs.Dump.Text
import Ixo.Proofs.Dump.Json
import Ixo.Proofs.Command.Invocation
import Ixo.Proofs.Command.Outcome
import Ixo.Proofs.Command.Acceptance
