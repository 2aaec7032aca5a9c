import Trivalent.Program

/-!
Traces: what a program does, one state per timestep, with three-valued predicates. `Trace.formula`
turns the locations of a trace back into a formula.
-/

set_option autoImplicit false

namespace Trivalent

/-- The three values of a predicate. -/
inductive Truth where
  | yes
  | no
  | unknown
  deriving DecidableEq, Inhabited

structure ProcessLocation where
  process : Nat
  location : Nat
  deriving DecidableEq, Inhabited

structure PredicateStatus where
  name : String
  value : Truth
  deriving DecidableEq, Inhabited

/-- Whether a process is treated fairly. Without fairness one entry stands for the whole state. -/
inductive Fairness where
  | notApplicable
  | fair (process : Nat)
  | unfair (process : Nat)
  deriving DecidableEq, Inhabited

structure Resources where
  re : Bool := false
  rd : Bool := false
  deriving DecidableEq, Inhabited

structure State where
  timestep : Nat
  locations : List ProcessLocation := []
  predicates : List PredicateStatus := []
  fairness : List Fairness := []
  resources : Resources := {}
  deriving DecidableEq, Inhabited

structure Trace where
  states : List State := []
  deriving DecidableEq, Inhabited

/-- The formula of one process at one place of a trace, under the digits of a program. -/
def Program.locate (program : Program) (timestep : Nat) (place : ProcessLocation) :
    Except DecodeError Formula :=
  match program.encodeLocation? place.process place.location timestep with
  | some formula => .ok formula
  | none => .error (.unknownProcess place.process program.processes.length)

/-- The location formulas of a state, process by process. -/
def State.locationFormulas (state : State) (program : Program) :
    Except DecodeError (List Formula) :=
  state.locations.mapM (program.locate state.timestep)

/-- The conjunction of all location formulas of a trace. Predicates, fairness and resources are left
open. -/
def Trace.formula (trace : Trace) (program : Program) : Except DecodeError Formula := do
  let parts ← trace.states.mapM (·.locationFormulas program)
  return Formula.conj parts.flatten

end Trivalent
