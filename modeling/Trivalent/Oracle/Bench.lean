import Trivalent.Oracle.Basic

/-!
A bench of small oracles. A bench answers either by truth table, which is exact for formulas of a few
variables, or from a script. It keeps count of its calls and of everything asserted.
-/

set_option autoImplicit false

namespace Trivalent

/-- One answer of a script. The failing answers wait for the call that they belong to. -/
inductive ScriptAnswer where
  | sat (model : Option Model)
  | unsat
  | unknown (reason : String)
  | checkFails (message : String)
  | assertFails (message : String)
  | resetFails (message : String)
  deriving DecidableEq, Inhabited

inductive Answering where
  | table (limit : Option Nat)
  | script (answers : List ScriptAnswer)
  deriving DecidableEq, Inhabited

structure Bench where
  answering : Answering := .table none
  /-- How long the checks take, one after the other and round again. -/
  takes : List Nat := []
  asserted : List Formula := []
  model : Option Model := none
  /-- Every formula ever asserted. -/
  history : List Formula := []
  resets : Nat := 0
  checks : Nat := 0
  deriving Inhabited

namespace TruthTable

/-- More variables than this are refused. -/
def variableLimit : Nat := 12

/-- The assignment of a mask: the variable at a position has the bit of that position. -/
def assignment (names : List String) (mask : Nat) : Assignment := fun name =>
  (names.idxOf? name).map mask.testBit

/-- The first of the next masks that satisfies a formula. -/
def firstMask (formula : Formula) (names : List String) : Nat → Nat → Option Nat
  | 0, _ => none
  | count + 1, mask =>
      if formula.eval (assignment names mask) then some mask
      else firstMask formula names count (mask + 1)

def modelOf (names : List String) (mask : Nat) : Model :=
  Model.ofList (names.zipIdx.map fun (name, position) => ⟨name, mask.testBit position⟩)

def check (formula : Formula) : Except String (SatResult × Option Model) :=
  let names := formula.support
  if variableLimit < names.length then
    .error s!"{names.length} variables is too many for a truth table"
  else
    match firstMask formula names (Nat.pow 2 names.length) 0 with
    | some mask => .ok (.sat, some (modelOf names mask))
    | none => .ok (.unsat, none)

end TruthTable

namespace Bench

def reset (bench : Bench) : Reply Bench Unit :=
  match bench.answering with
  | .script (.resetFails message :: rest) =>
      ⟨.error message, { bench with answering := .script rest }, 0⟩
  | _ => ⟨.ok (), { bench with resets := bench.resets + 1, asserted := [], model := none }, 0⟩

def assert (formula : Formula) (bench : Bench) : Reply Bench Unit :=
  match bench.answering with
  | .script (.assertFails message :: rest) =>
      ⟨.error message, { bench with answering := .script rest }, 0⟩
  | _ =>
      ⟨.ok (), { bench with
        asserted := bench.asserted ++ [formula]
        history := bench.history ++ [formula] }, 0⟩

/-- The nanoseconds that the next check takes. -/
def nextTake (bench : Bench) : Nat :=
  (bench.takes[bench.checks % bench.takes.length]?).getD 0

/-- The answer to a check, its model and the answers that are left. -/
def answer (bench : Bench) : Except String (SatResult × Option Model) × Answering :=
  match bench.answering with
  | .table limit =>
      if limit.any (· < bench.checks) then (.ok (.unknown "canceled", none), bench.answering)
      else (TruthTable.check (Formula.conj bench.asserted), bench.answering)
  | .script [] => (.error "script exhausted", .script [])
  | .script (next :: rest) =>
      (match next with
        | .sat model => .ok (.sat, model)
        | .unsat => .ok (.unsat, none)
        | .unknown reason => .ok (.unknown reason, none)
        | .checkFails message => .error message
        | .assertFails _ => .ok (.sat, none)
        | .resetFails _ => .ok (.sat, none), .script rest)

def check (bench : Bench) : Reply Bench SatResult :=
  let took := bench.nextTake
  let asked := { bench with model := none, checks := bench.checks + 1 }
  let (result, answering) := asked.answer
  match result with
  | .ok (result, model) => ⟨.ok result, { asked with model, answering }, took⟩
  | .error message => ⟨.error message, { asked with answering }, took⟩

def oracle : Oracle Bench where
  reset := reset
  assert := assert
  check := check
  model := Bench.model

/-- The oracle at a place of a row of benches. -/
def oracleAt (place : Nat) : Oracle (Array Bench) :=
  oracle.focus (fun row => row[place]?.getD default) fun bench row => row.setIfInBounds place bench

end Bench

end Trivalent
