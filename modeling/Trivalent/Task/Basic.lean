import Trivalent.Formula.Basic

/-!
Checking tasks: the formulas of the initial states, of the step out of a timestep and of a violation
at a timestep.
-/

set_option autoImplicit false

namespace Trivalent

structure Task where
  initial : Formula
  transition : Nat → Formula
  violation : Nat → Formula

end Trivalent
