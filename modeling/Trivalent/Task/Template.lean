import Trivalent.Task.Basic

/-!
Tasks from templates: formulas whose names have the timestep, or the one after it, left to fill in.
-/

set_option autoImplicit false

namespace Trivalent

/-- The formulas of a task, one per timestep. The last of a list serves all later timesteps. -/
structure Template where
  initial : Formula := .const true
  transitions : List Formula := []
  violations : List Formula := []

namespace Template

/-- Fill in a timestep: `{t}` stands for it and `{t+1}` for the next. -/
def fillName (timestep : Nat) (name : String) : String :=
  (name.replace "\x7bt\x7d" timestep.repr).replace "\x7bt+1\x7d" (timestep + 1).repr

/-- The formula of a timestep, or the fallback if the list is empty. -/
def formulaAt (formulas : List Formula) (fallback : Formula) (timestep : Nat) : Formula :=
  ((formulas[timestep]?).or formulas.getLast?).elim fallback (·.rename (fillName timestep))

/-- With an empty list there are no constraints on steps and no violations. -/
def task (template : Template) : Task where
  initial := template.initial
  transition := formulaAt template.transitions (.const true)
  violation := formulaAt template.violations (.const false)

end Template

end Trivalent
