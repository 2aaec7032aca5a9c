import Trivalent.Text.Position

/-!
What can go wrong, as causes, and the text of each. An error may have a source, the error it arose
from; `chain` lists the texts from the error down to its last source.
-/

set_option autoImplicit false

namespace Trivalent

/-- A model or a trace does not fit the program it is read for. -/
inductive DecodeError where
  | invalidDigit (digits : String) (found : Char)
  | overflow (digits : String)
  | location (timestep process : Nat) (source : DecodeError)
  | unknownProcess (process processes : Nat)
  deriving DecidableEq, Inhabited

/-- How a document fails to be read: it ends too early, a character is wrong where it stands, or a
well-formed value is not the one expected. -/
inductive DocumentFault where
  | ended
  | malformed
  | mismatched
  deriving DecidableEq, Inhabited

/-- Why a document is refused and, if known, at which place in it. -/
structure DocumentError where
  fault : DocumentFault
  reason : String
  position : Position := {}
  deriving DecidableEq, Inhabited

/-- Why a check cannot be set up as asked. -/
inductive ConfigurationError where
  | startBeyondBound (start bound : Nat)
  | noRefinements
  | noModel
  | tooFewModels (found : Nat)
  | stated (message : String)
  deriving DecidableEq, Inhabited

/-- Why a file cannot be written. -/
inductive FileError where
  | occupied
  | notDirectory
  | noSuchDirectory
  | nulInName
  | nameTooLong
  | stated (message : String)
  deriving DecidableEq, Inhabited

/-- Why a check stops without an outcome. -/
inductive CheckError where
  | configuration (cause : ConfigurationError)
  | oracle (timestep : Nat) (message : String)
  | missingModel (timestep : Nat)
  | decode (bound : Nat) (source : DecodeError)
  | file (source : FileError)
  | document (source : DocumentError)
  deriving DecidableEq, Inhabited

namespace DecodeError

def message : DecodeError → String
  | .invalidDigit digits found =>
      s!"location digits '{digits}' contain '{found}', only 0 or 1 allowed"
  | .overflow digits => s!"location digits '{digits}' do not fit in a machine word"
  | .location timestep process source =>
      s!"process {process} at timestep {timestep}: " ++ source.message
  | .unknownProcess process processes =>
      s!"path refers to process {process} but the model has {processes} process(es)"

def chain : DecodeError → List String
  | .location timestep process source =>
      (location timestep process source).message :: source.chain
  | error => [error.message]

end DecodeError

def DocumentFault.message : DocumentFault → String
  | .ended => "the document ends too early"
  | .malformed => "the document is malformed"
  | .mismatched => "the document has a value of another kind"

namespace DocumentError

def ofFault (fault : DocumentFault) : DocumentError := { fault, reason := fault.message }

/-- An error with a given text. A position that the text ends in is the position of the error. -/
def stated (message : String) : DocumentError :=
  let (reason, position) := Position.split message
  { fault := .mismatched, reason, position }

def message (error : DocumentError) : String := error.reason ++ error.position.text

end DocumentError

def ConfigurationError.message : ConfigurationError → String
  | .startBeyondBound start bound => s!"start_from ({start}) exceeds bound ({bound})"
  | .noRefinements => "max_refinements must be at least 1"
  | .noModel => "at least one model is required"
  | .tooFewModels found =>
      s!"multi-model evaluation needs an abstract and a concrete model, got {found}"
  | .stated message => message

def FileError.message : FileError → String
  | .occupied => "File exists (os error 17)"
  | .notDirectory => "Not a directory (os error 20)"
  | .noSuchDirectory => "No such file or directory (os error 2)"
  | .nulInName => "file name contained an unexpected NUL byte"
  | .nameTooLong => "File name too long (os error 36)"
  | .stated message => message

namespace CheckError

def message : CheckError → String
  | .configuration cause => "Configuration error: " ++ cause.message
  | .oracle timestep message => s!"Oracle failure at timestep {timestep}: {message}"
  | .missingModel timestep => s!"Oracle answered SAT without a model at timestep {timestep}"
  | .decode bound source => s!"Decoding error at bound {bound}: " ++ source.message
  | .file source => "I/O error: " ++ source.message
  | .document source => "Invalid configuration document: " ++ source.message

def chain (error : CheckError) : List String :=
  error.message :: match error with
    | .decode _ source => source.chain
    | .file source => [source.message]
    | .document source => [source.message]
    | _ => []

end CheckError

end Trivalent
