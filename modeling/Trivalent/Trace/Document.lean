import Trivalent.Json.Basic
import Trivalent.Trace.Text

/-!
Traces as JSON values, field by field.
-/

set_option autoImplicit false

namespace Trivalent

def ProcessLocation.toJson (place : ProcessLocation) : Json :=
  .obj [("process", .num place.process), ("location", .num place.location)]

def PredicateStatus.toJson (status : PredicateStatus) : Json :=
  .obj [("name", .str status.name), ("value", .str status.value.text)]

def Fairness.toJson : Fairness → Json
  | .notApplicable => .str "not_applicable"
  | .fair process => .obj [("fair", .obj [("process", .num process)])]
  | .unfair process => .obj [("unfair", .obj [("process", .num process)])]

def Resources.toJson (resources : Resources) : Json :=
  .obj [("re", .bool resources.re), ("rd", .bool resources.rd)]

def State.toJson (state : State) : Json :=
  .obj [("timestep", .num state.timestep),
    ("locations", .arr (state.locations.map (·.toJson))),
    ("predicates", .arr (state.predicates.map (·.toJson))),
    ("fairness", .arr (state.fairness.map (·.toJson))),
    ("resources", state.resources.toJson)]

def Trace.toJson (trace : Trace) : Json :=
  .obj [("states", .arr (trace.states.map (·.toJson)))]

end Trivalent
