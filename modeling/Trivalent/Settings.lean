import Trivalent.Error

/-!
What to check and how far: the property's options and the settings of a check.
-/

set_option autoImplicit false

namespace Trivalent

/-- Options of the property under check. `multiModel` asks for refinement over an abstract and a
concrete model, `doubleTest` for solving the result's trace once more. -/
structure Property where
  fairness : Bool := false
  multiModel : Bool := false
  doubleTest : Bool := false
  deriving DecidableEq, Inhabited

/-- The window of timesteps, the time budget in seconds (0 for none), the number of refinement rounds
and the directory that queries are written to. -/
structure Settings where
  bound : UInt64 := 10
  startFrom : UInt64 := 0
  timeoutSecs : UInt64 := 0
  maxRefinements : UInt64 := 32
  dumpQueries : Option String := none
  deriving DecidableEq

instance : Inhabited Settings := ⟨{}⟩

/-- The window must not be empty, and at least one round must be allowed. -/
def Settings.validate (settings : Settings) : Except CheckError Unit :=
  if settings.bound < settings.startFrom then
    .error (.configuration
      (.startBeyondBound settings.startFrom.toNat settings.bound.toNat))
  else if settings.maxRefinements = 0 then
    .error (.configuration .noRefinements)
  else .ok ()

end Trivalent
