import Trivalent.Formula.Basic
import Trivalent.Text.Numeral

/-!
Atoms: the variables that carry program state, and their names. Location digits are called
`n_<timestep>_<process>_<digit>`, predicates `<id>_<timestep>_u` (unknown) and `<id>_<timestep>_t`
(true), fairness `fr_<timestep>_<process>`, the resource flags `re_<timestep>` and `rd_<timestep>`,
and the status variable `unknown`.
-/

set_option autoImplicit false

namespace Trivalent

/-- A predicate has two variables: one says that its value is unknown, one that it is true. -/
inductive PredicateAspect where
  | unknown
  | holds
  deriving DecidableEq, Inhabited

/-- The two resource flags of a timestep. -/
inductive ResourceFlag where
  | re
  | rd
  deriving DecidableEq, Inhabited

inductive Atom where
  | location (timestep process digit : Nat)
  | predicate (id timestep : Nat) (aspect : PredicateAspect)
  | fairness (timestep process : Nat)
  | resource (flag : ResourceFlag) (timestep : Nat)
  | status
  deriving DecidableEq, Inhabited

def PredicateAspect.letter : PredicateAspect → String
  | .unknown => "u"
  | .holds => "t"

def ResourceFlag.text : ResourceFlag → String
  | .re => "re"
  | .rd => "rd"

namespace Atom

def name : Atom → String
  | .location timestep process digit =>
      "n_" ++ timestep.repr ++ "_" ++ process.repr ++ "_" ++ digit.repr
  | .predicate id timestep aspect => id.repr ++ "_" ++ timestep.repr ++ "_" ++ aspect.letter
  | .fairness timestep process => "fr_" ++ timestep.repr ++ "_" ++ process.repr
  | .resource flag timestep => flag.text ++ "_" ++ timestep.repr
  | .status => "unknown"

/-- The atom with this name, if there is one. Numbers have to be canonical numerals of words. -/
def parse? (name : String) : Option Atom :=
  if name = "unknown" then some .status
  else
    match name.toList.splitOn '_' with
    | [['n'], timestep, process, digit] => do
        return .location (← Numeral.parse? timestep) (← Numeral.parse? process)
          (← Numeral.parse? digit)
    | [['f', 'r'], timestep, process] => do
        return .fairness (← Numeral.parse? timestep) (← Numeral.parse? process)
    | [['r', 'e'], timestep] => do return .resource .re (← Numeral.parse? timestep)
    | [['r', 'd'], timestep] => do return .resource .rd (← Numeral.parse? timestep)
    | [id, timestep, ['u']] => do
        return .predicate (← Numeral.parse? id) (← Numeral.parse? timestep) .unknown
    | [id, timestep, ['t']] => do
        return .predicate (← Numeral.parse? id) (← Numeral.parse? timestep) .holds
    | _ => none

def literal (atom : Atom) (polarity : Bool) : Literal := ⟨atom.name, polarity⟩

def formula (atom : Atom) (polarity : Bool) : Formula := .lit (atom.literal polarity)

end Atom

end Trivalent
