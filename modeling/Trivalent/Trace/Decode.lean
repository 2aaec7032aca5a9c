import Trivalent.Model
import Trivalent.Settings
import Trivalent.Trace.Basic

/-!
Reading a trace out of a model. Every component of a state is read from its own atoms: a location
digit is 0 exactly when the model holds the digit's negative literal, all else hangs on positive
literals.
-/

set_option autoImplicit false

namespace Trivalent

namespace Model

/-- The location digits of a process, the most significant first. -/
def locationDigits (model : Model) (program : Program) (timestep process : Nat) : String :=
  String.ofList ((List.range (program.digits process)).map fun digit =>
    if model.isFalse (Atom.location timestep process digit).name then '0' else '1')

def decodeLocation (model : Model) (program : Program) (timestep process : Nat) :
    Except DecodeError ProcessLocation :=
  match Location.parse (model.locationDigits program timestep process) with
  | .ok location => .ok ⟨process, location⟩
  | .error source => .error (.location timestep process source)

/-- An unknown predicate is unknown even if it is also said to be true. -/
def decodePredicate (model : Model) (timestep : Nat) (entry : String × UInt64) : PredicateStatus :=
  let atom := Atom.predicate entry.2.toNat timestep
  { name := entry.1
    value :=
      if model.isTrue (atom .unknown).name then .unknown
      else if model.isTrue (atom .holds).name then .yes
      else .no }

def decodeFairness (model : Model) (program : Program) (property : Property) (timestep : Nat) :
    List Fairness :=
  if property.fairness then
    (List.range program.processes.length).map fun process =>
      if model.isTrue (Atom.fairness timestep process).name then .fair process
      else .unfair process
  else [.notApplicable]

def decodeResources (model : Model) (timestep : Nat) : Resources :=
  { re := model.isTrue (Atom.resource .re timestep).name
    rd := model.isTrue (Atom.resource .rd timestep).name }

def decodeState (model : Model) (program : Program) (property : Property) (timestep : Nat) :
    Except DecodeError State := do
  let locations ←
    (List.range program.processes.length).mapM (model.decodeLocation program timestep)
  return {
    timestep
    locations
    predicates := program.predicates.entries.map (model.decodePredicate timestep)
    fairness := model.decodeFairness program property timestep
    resources := model.decodeResources timestep }

/-- The trace of the timesteps up to and including `bound`. -/
def decode (model : Model) (program : Program) (property : Property) (bound : Nat) :
    Except DecodeError Trace := do
  return ⟨← (List.range (bound + 1)).mapM (model.decodeState program property)⟩

end Model

end Trivalent
