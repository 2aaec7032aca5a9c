import Trivalent.Atom
import Trivalent.Checker
import Trivalent.Error
import Trivalent.Evaluator
import Trivalent.Folder
import Trivalent.Formula.Basic
import Trivalent.Formula.LiteralText
import Trivalent.Formula.Smtlib
import Trivalent.Journal
import Trivalent.Json.Basic
import Trivalent.Json.Double
import Trivalent.Json.Reader.Basic
import Trivalent.Json.Reader.Number
import Trivalent.Json.Reader.Quoted
import Trivalent.Json.Reader.Record
import Trivalent.Json.Reader.Skip
import Trivalent.Literal
import Trivalent.Location
import Trivalent.Model
import Trivalent.Oracle.Basic
import Trivalent.Oracle.Bench
import Trivalent.OrderedSet
import Trivalent.Outcome
import Trivalent.Program
import Trivalent.Program.Document
import Trivalent.Proofs.Atom.Names
import Trivalent.Proofs.Checker.Chronicle
import Trivalent.Proofs.Checker.Confirmation
import Trivalent.Proofs.Checker.Coverage
import Trivalent.Proofs.Checker.Failure
import Trivalent.Proofs.Checker.History
import Trivalent.Proofs.Checker.Isolation
import Trivalent.Proofs.Checker.Retest
import Trivalent.Proofs.Checker.Termination
import Trivalent.Proofs.Checker.Timing
import Trivalent.Proofs.Evaluator.Agreement
import Trivalent.Proofs.Evaluator.Answers
import Trivalent.Proofs.Evaluator.Books
import Trivalent.Proofs.Evaluator.Budget
import Trivalent.Proofs.Evaluator.Course
import Trivalent.Proofs.Evaluator.Decision
import Trivalent.Proofs.Evaluator.Entries
import Trivalent.Proofs.Evaluator.Execution
import Trivalent.Proofs.Evaluator.Interview
import Trivalent.Proofs.Evaluator.Judgement
import Trivalent.Proofs.Evaluator.Protocol
import Trivalent.Proofs.Evaluator.Realisation
import Trivalent.Proofs.Evaluator.Response
import Trivalent.Proofs.Evaluator.Transcript
import Trivalent.Proofs.Evaluator.Window
import Trivalent.Proofs.Formula.Dependence
import Trivalent.Proofs.Formula.Expression
import Trivalent.Proofs.Formula.Grammar
import Trivalent.Proofs.Formula.Script
import Trivalent.Proofs.Formula.Support
import Trivalent.Proofs.Formula.Term
import Trivalent.Proofs.Json.Containers
import Trivalent.Proofs.Json.Documents
import Trivalent.Proofs.Json.Scalars
import Trivalent.Proofs.Location.Digits
import Trivalent.Proofs.Location.Reading
import Trivalent.Proofs.Location.Width
import Trivalent.Proofs.Oracle.Calls
import Trivalent.Proofs.Oracle.Contract
import Trivalent.Proofs.Oracle.Exhaustive
import Trivalent.Proofs.Program.Declarations
import Trivalent.Proofs.Task.Unrolling
import Trivalent.Proofs.Text.Numeral
import Trivalent.Proofs.Text.Separator
import Trivalent.Proofs.Trace.Decoding
import Trivalent.Proofs.Trace.Locality
import Trivalent.Proofs.Trace.Printing
import Trivalent.Proofs.Trace.RoundTrip
import Trivalent.Proofs.Trace.Shape
import Trivalent.Refinement
import Trivalent.Settings
import Trivalent.Settings.Document
import Trivalent.Stopwatch
import Trivalent.Task.Basic
import Trivalent.Task.Template
import Trivalent.Text.Blank
import Trivalent.Text.Numeral
import Trivalent.Text.Position
import Trivalent.Text.Unseen
import Trivalent.Trace.Basic
import Trivalent.Trace.Decode
import Trivalent.Trace.Document
import Trivalent.Trace.Text
