import Mathlib.Logic.Function.Basic
import Trivalent.Atom
import Trivalent.Journal
import Trivalent.Proofs.Formula.Dependence
import Trivalent.Task.Basic

/-!
What a query asks. The formulas of a task, unrolled up to a timestep, are true of the assignments that
violate the property there; the status variable tells possible violations from definite ones.
-/

set_option autoImplicit false

namespace Trivalent

def Assignment.status (assignment : Assignment) : Bool := assignment.read Atom.status.name

/-- Two assignments put every process at the same location at every timestep. -/
def Assignment.SameLocations (left right : Assignment) : Prop :=
  ∀ timestep process digit,
    left.read (Atom.location timestep process digit).name =
      right.read (Atom.location timestep process digit).name

theorem Assignment.status_update (assignment : Assignment) (value : Bool) :
    Assignment.status (Function.update assignment Atom.status.name (some value)) = value := by
  unfold status read
  rw [Function.update_self, Option.getD_some]

namespace Task

/-- The formulas that hold up to a timestep: the initial states, the constraint, and the steps. -/
def unrolled (task : Task) (constraint : Option Formula) (timestep : Nat) : List Formula :=
  task.initial :: (constraint.toList ++ (List.range timestep).map task.transition)

def query (task : Task) (constraint : Option Formula) (timestep : Nat) (phase : Phase) :
    List Formula :=
  [Formula.conj (task.unrolled constraint timestep), task.violation timestep,
    Atom.status.formula phase.polarity]

/-- The assignment starts in an initial state, keeps the constraint, takes the steps up to a timestep
and violates the property there. -/
structure Violates (task : Task) (constraint : Option Formula) (timestep : Nat)
    (assignment : Assignment) : Prop where
  initial : task.initial.eval assignment = true
  constraint : ∀ formula ∈ constraint, formula.eval assignment = true
  steps : ∀ step < timestep, (task.transition step).eval assignment = true
  violation : (task.violation timestep).eval assignment = true

def Reachable (task : Task) (constraint : Option Formula) (timestep : Nat) (status : Bool) : Prop :=
  ∃ assignment, task.Violates constraint timestep assignment ∧ assignment.status = status

/-- Whatever the task violates with the status variable false, it violates with the variable true. -/
def Monotone (task : Task) : Prop :=
  ∀ timestep (assignment : Assignment), task.Violates none timestep assignment →
    assignment.status = false →
      task.Violates none timestep (Function.update assignment Atom.status.name (some true))

/-- Every possible violation of the concrete task has a companion at the same locations. -/
def Overapproximates (abstract concrete : Task) : Prop :=
  ∀ timestep assignment, concrete.Violates none timestep assignment → assignment.status = true →
    ∃ companion : Assignment, companion.SameLocations assignment ∧
      abstract.Violates none timestep companion ∧ companion.status = true

variable {task : Task} {constraint : Option Formula} {timestep : Nat} {assignment : Assignment}

theorem unrolled_zero : task.unrolled constraint 0 = task.initial :: constraint.toList := by
  simp only [unrolled, List.range_zero, List.map_nil, List.append_nil]

theorem unrolled_succ :
    task.unrolled constraint (timestep + 1) =
      task.unrolled constraint timestep ++ [task.transition timestep] := by
  simp only [unrolled, List.range_succ, List.map_append, List.map_cons, List.map_nil,
    List.cons_append, List.append_assoc]

theorem eval_query_iff {phase : Phase} :
    (Formula.conj (task.query constraint timestep phase)).eval assignment = true ↔
      task.Violates constraint timestep assignment ∧ assignment.status = phase.polarity := by
  simp only [Formula.eval_conj_iff, query, unrolled, List.forall_mem_cons, List.forall_mem_append,
    List.forall_mem_map, List.mem_range, Option.mem_toList, List.not_mem_nil, false_implies,
    implies_true, and_true, Atom.formula, Formula.eval, Literal.holds_iff, Atom.literal]
  constructor
  · rintro ⟨⟨initial, constraint, steps⟩, violation, status⟩
    exact ⟨⟨initial, constraint, steps, violation⟩, status⟩
  · rintro ⟨⟨initial, constraint, steps, violation⟩, status⟩
    exact ⟨⟨initial, constraint, steps⟩, violation, status⟩

theorem reachable_iff {phase : Phase} :
    task.Reachable constraint timestep phase.polarity ↔
      (Formula.conj (task.query constraint timestep phase)).Satisfiable :=
  exists_congr fun _ => eval_query_iff.symm

theorem violates_none_iff :
    task.Violates none timestep assignment ↔
      task.initial.eval assignment = true ∧
        (∀ step < timestep, (task.transition step).eval assignment = true) ∧
        (task.violation timestep).eval assignment = true := by
  constructor
  · intro violates
    exact ⟨violates.initial, violates.steps, violates.violation⟩
  · intro ⟨initial, steps, violation⟩
    refine ⟨initial, ?_, steps, violation⟩
    intro formula absent
    cases absent

theorem violates_iff_unconstrained :
    task.Violates constraint timestep assignment ↔
      task.Violates none timestep assignment ∧
        ∀ formula ∈ constraint, formula.eval assignment = true := by
  constructor
  · intro violates
    have free := violates_none_iff.mpr ⟨violates.initial, violates.steps, violates.violation⟩
    exact ⟨free, violates.constraint⟩
  · intro ⟨free, kept⟩
    exact ⟨free.initial, kept, free.steps, free.violation⟩

theorem violates_some_iff {formula : Formula} :
    task.Violates (some formula) timestep assignment ↔
      task.Violates none timestep assignment ∧ formula.eval assignment = true := by
  rw [violates_iff_unconstrained]
  simp only [Option.mem_def, Option.some.injEq, forall_eq']

end Task

end Trivalent
