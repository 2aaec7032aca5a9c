import Trivalent.Outcome
import Trivalent.Formula.Basic

/-!
What a refinement leaves behind: its rounds and the reason why it ended.
-/

set_option autoImplicit false

namespace Trivalent

/-- One round: the abstract model under the constraint that keeps off the traces refuted before, and
the replay of its trace on the concrete model, if there was one. -/
structure Round where
  round : Nat
  start : Nat
  constraint : Formula
  excluded : Nat
  abstract : Outcome
  concrete : Option Outcome
  deriving Inhabited

namespace Round

/-- A count of a round, summed over its evaluations. -/
def sum (count : Outcome → Nat) (round : Round) : Nat :=
  count round.abstract + round.concrete.elim 0 count

/-- A count summed over rounds. -/
def total (count : Outcome → Nat) : List Round → Nat
  | [] => 0
  | round :: rest => round.sum count + total count rest

end Round

inductive Ending where
  | abstractDefinite
  | concreteConfirmed
  | inconclusive
  | roundsExhausted
  deriving DecidableEq, Inhabited

def Ending.name : Ending → String
  | .abstractDefinite => "abstract_definite"
  | .concreteConfirmed => "concrete_confirmed"
  | .inconclusive => "inconclusive"
  | .roundsExhausted => "refinement_budget_exhausted"

structure Refinement where
  rounds : List Round
  ending : Ending
  deriving Inhabited

end Trivalent
