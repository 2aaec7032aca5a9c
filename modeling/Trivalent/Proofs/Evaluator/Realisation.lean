import Trivalent.Proofs.Evaluator.Decision

/-!
The trace of an outcome can be realised. The model behind it may leave location digits open that the
query does not mention; the trace reads them as 1, and so does the assignment that realises it.
-/

set_option autoImplicit false

namespace Trivalent

variable {σ : Type}

/-- The verdict that a model of this phase's query shows. -/
def Phase.verdict : Phase → Verdict
  | .possible => .unknown
  | .definite => .satisfiable

namespace Evaluator

variable {evaluator : Evaluator σ} {constraint : Option Formula}

theorem Accounts.shown_of_verdict {bound start : Nat} {outcome : Outcome}
    (accounts : evaluator.Accounts constraint bound start outcome) (phase : Phase)
    (verdict : outcome.verdict = phase.verdict) :
    ∃ trace, outcome.trace = some trace ∧
      evaluator.Shown constraint outcome.timestep phase trace := by
  cases accounts with
  | found _ _ _ grounds =>
      rw [verdict] at grounds
      generalize outcome.trace = trace at grounds
      cases phase with
      | possible =>
          cases grounds with
          | possible shown _ => exact ⟨_, rfl, shown⟩
      | definite =>
          cases grounds with
          | definite _ shown => exact ⟨_, rfl, shown⟩
  | cleared contrary _ _ _ =>
      rw [verdict] at contrary
      cases phase with
      | possible => cases contrary
      | definite => cases contrary

/-- Behind a trace stands a model that violates the property, read as the trace reads it. -/
theorem Shown.exists_model {timestep : Nat} {phase : Phase} {trace : Trace}
    (shown : evaluator.Shown constraint timestep phase trace)
    (offers : evaluator.oracle.OffersModels) :
    ∃ model : Model, model.decode evaluator.program evaluator.property timestep = .ok trace ∧
      evaluator.task.Violates constraint timestep model.reading ∧
      model.reading.status = phase.polarity := by
  obtain ⟨state, model, granted, offered, decoded⟩ := shown
  obtain ⟨settling, same, settles⟩ :=
    offers (Formula.conj (evaluator.task.query constraint timestep phase)) state granted
  rw [← Oracle.checkAll_eq_single, offered] at same
  cases same
  -- read by its positive literals, the model could miss the trace at a digit that it leaves open
  exact ⟨model, decoded, Task.eval_query_iff.mp settles.eval_reading⟩

/-- An outcome that is satisfiable or unknown has a trace, the trace has a formula, and one assignment
satisfies this formula and the query of the verdict together. -/
theorem evaluate_realises (evaluator : Evaluator σ) (offers : evaluator.oracle.OffersModels)
    (constraint : Option Formula) {start bound : Nat} {outcome : Outcome}
    {session after : Session σ}
    (ran : (evaluator.evaluate bound start constraint).run session = .ok outcome after)
    (phase : Phase) (verdict : outcome.verdict = phase.verdict) :
    ∃ (trace : Trace) (formula : Formula) (assignment : Assignment),
      outcome.trace = some trace ∧ trace.formula evaluator.program = .ok formula ∧
      evaluator.task.Violates constraint outcome.timestep assignment ∧
      assignment.status = phase.polarity ∧ formula.eval assignment = true := by
  obtain ⟨trace, traced, shown⟩ := (evaluate_accounts ran).2.shown_of_verdict phase verdict
  obtain ⟨model, decoded, violates, status⟩ := shown.exists_model offers
  obtain ⟨formula, encoded, holds⟩ := Model.exists_formula_of_decode decoded
  exact ⟨trace, formula, model.reading, traced, encoded, violates, status, holds⟩

/-- The window starts at timestep 2, and no query mentions the location at timestep 1. -/
theorem evaluate_realises_walk :
    ∃ outcome after,
      ((Evaluator.single Exhaustive.oracle .walk).evaluate 3 2 none).run { oracle := {} } =
        .ok outcome after ∧
      outcome.verdict = .unknown ∧
      ∃ (trace : Trace) (formula : Formula) (assignment : Assignment),
        outcome.trace = some trace ∧
        trace.formula { processes := [⟨"P0", 2⟩] } = .ok formula ∧
        Task.walk.Violates none outcome.timestep assignment ∧
        assignment.status = true ∧ formula.eval assignment = true := by
  have viewed : (((Evaluator.single Exhaustive.oracle .walk).evaluate 3 2 none).run'
      { oracle := {} }).map Outcome.verdict = some .unknown := by
    decide +kernel
  obtain ⟨outcome, after, ran, unknown⟩ := EvalM.exists_run_of_run' viewed
  refine ⟨outcome, after, ran, unknown, ?_⟩
  exact evaluate_realises (Evaluator.single Exhaustive.oracle .walk)
    Exhaustive.oracle_correct.offersModels none ran .possible unknown

end Evaluator

end Trivalent
