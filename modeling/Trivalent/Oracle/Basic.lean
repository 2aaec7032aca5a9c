import Trivalent.Formula.Basic
import Trivalent.Model

/-!
Satisfiability oracles. An oracle keeps assertions from call to call, so a query of its own starts
with a reset; `checkAll` is such a query. Every call may fail, changes the oracle's state and takes
time.
-/

set_option autoImplicit false

namespace Trivalent

inductive SatResult where
  | sat
  | unsat
  | unknown (reason : String)
  deriving DecidableEq, Inhabited

namespace SatResult

def text : SatResult → String
  | .sat => "TRUE"
  | .unsat => "FALSE"
  | .unknown reason => "UNDEF (" ++ reason ++ ")"

def isSat : SatResult → Bool
  | .sat => true
  | _ => false

def toJson : SatResult → Json
  | .sat => .str "Sat"
  | .unsat => .str "Unsat"
  | .unknown reason => .obj [("Unknown", .str reason)]

end SatResult

/-- What a call to an oracle comes back with: an answer or the reason of a failure, the oracle's state
and the nanoseconds that have passed. -/
structure Reply (σ α : Type) where
  answer : Except String α
  state : σ
  took : Nat := 0

/-- Go on with the answer of a call. After a failure nothing more is called. -/
def Reply.andThen {σ α β : Type} (reply : Reply σ α) (next : α → σ → Reply σ β) : Reply σ β :=
  match reply.answer with
  | .ok value =>
      let later := next value reply.state
      { later with took := reply.took + later.took }
  | .error message => ⟨.error message, reply.state, reply.took⟩

/-- An oracle whose state is of type `σ`. The model is that of the last check. -/
structure Oracle (σ : Type) where
  reset : σ → Reply σ Unit
  assert : Formula → σ → Reply σ Unit
  check : σ → Reply σ SatResult
  model : σ → Option Model

namespace Oracle

variable {σ τ : Type}

/-- Ask for the conjunction of the parts alone: reset, assert it as one formula and check. -/
def checkAll (oracle : Oracle σ) (parts : List Formula) (state : σ) : Reply σ SatResult :=
  (oracle.reset state).andThen fun _ state =>
    (oracle.assert (Formula.conj parts) state).andThen fun _ state =>
      oracle.check state

/-- The reply of a call to a part of a larger state. -/
def widen {α : Type} (put : σ → τ → τ) (whole : τ) (reply : Reply σ α) : Reply τ α :=
  ⟨reply.answer, put reply.state whole, reply.took⟩

/-- The oracle that keeps its state in a part of a larger one. -/
def focus (oracle : Oracle σ) (get : τ → σ) (put : σ → τ → τ) : Oracle τ where
  reset whole := widen put whole (oracle.reset (get whole))
  assert formula whole := widen put whole (oracle.assert formula (get whole))
  check whole := widen put whole (oracle.check (get whole))
  model whole := oracle.model (get whole)

end Oracle

end Trivalent
