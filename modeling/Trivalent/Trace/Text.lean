import Trivalent.Trace.Basic

/-!
The printed form of a trace: per state the timestep, the locations, the predicates, the fairness
entries and the resource flags, each on a line of its own.
-/

set_option autoImplicit false

namespace Trivalent

def Truth.text : Truth → String
  | .yes => "true"
  | .no => "false"
  | .unknown => "unknown"

def ProcessLocation.text (place : ProcessLocation) : String :=
  "P" ++ place.process.repr ++ " @ " ++ place.location.repr

def PredicateStatus.text (status : PredicateStatus) : String :=
  status.name ++ " = " ++ status.value.text

def Fairness.text : Fairness → String
  | .notApplicable => "n.a."
  | .fair process => "P" ++ process.repr ++ " = fair"
  | .unfair process => "P" ++ process.repr ++ " = unfair"

def boolText (value : Bool) : String := if value then "true" else "false"

def Resources.text (resources : Resources) : String :=
  "(re = " ++ boolText resources.re ++ ", rd = " ++ boolText resources.rd ++ ")"

/-- A line of entries in square brackets, two blanks in. -/
def bracketLine (entries : List String) : String :=
  "  [" ++ ", ".intercalate entries ++ "]\n"

def State.text (state : State) : String :=
  state.timestep.repr ++ ":\n" ++ bracketLine (state.locations.map (·.text)) ++
    bracketLine (state.predicates.map (·.text)) ++ bracketLine (state.fairness.map (·.text)) ++
    "  " ++ state.resources.text ++ "\n"

def Trace.text (trace : Trace) : String :=
  String.join (trace.states.map (·.text))

end Trivalent
