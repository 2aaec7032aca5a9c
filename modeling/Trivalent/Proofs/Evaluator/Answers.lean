import Trivalent.Proofs.Evaluator.Judgement
import Trivalent.Proofs.Oracle.Contract

/-!
What an outcome tells about the oracle. An evaluation that ends with an outcome has asked the queries
of the task, timestep after timestep, and the verdict fixes how they were answered
(`evaluate_accounts`). Nothing is assumed of the oracle, and queries may be written to files on the
way.
-/

set_option autoImplicit false

namespace Trivalent

variable {σ : Type}

namespace EvalM

theorem bind_ok_iff {α β : Type} {action : EvalM σ α} {next : α → EvalM σ β}
    {session after : Session σ} {result : β} :
    (action >>= next).run session = .ok result after ↔
      ∃ value middle, action.run session = .ok value middle ∧
        (next value).run middle = .ok result after := by
  rw [EStateM.run_bind]
  cases ran : action.run session with
  | ok value middle =>
      constructor
      · intro rest
        exact ⟨value, middle, rfl, rest⟩
      · rintro ⟨_, _, same, rest⟩
        cases same
        exact rest
  | error problem middle =>
      constructor
      · intro impossible
        cases impossible
      · rintro ⟨_, _, impossible, _⟩
        cases impossible

theorem not_throw_ok {α : Type} {problem : CheckError} {session after : Session σ} {result : α} :
    (throw problem : EvalM σ α).run session ≠ .ok result after := by
  intro impossible
  cases impossible

theorem exists_run_of_run' {α β : Type} {action : EvalM σ α} {session : Session σ} {view : α → β}
    {result : β} (viewed : (action.run' session).map view = some result) :
    ∃ value after, action.run session = .ok value after ∧ view value = result := by
  obtain ⟨value, found, same⟩ := Option.map_eq_some_iff.mp viewed
  unfold EStateM.run' at found
  cases ran : action.run session with
  | ok other after =>
      rw [ran] at found
      cases found
      exact ⟨value, after, rfl, same⟩
  | error problem after =>
      rw [ran] at found
      cases found

end EvalM

namespace Evaluator

open EvalM

/-! ### Answers behind a verdict -/

section Answers

variable (evaluator : Evaluator σ) (constraint : Option Formula)

/-- In some state the oracle answered the query of a timestep so. -/
def Answered (timestep : Nat) (phase : Phase) (result : SatResult) : Prop :=
  ∃ state, (evaluator.oracle.checkAll (evaluator.task.query constraint timestep phase) state).answer =
    .ok result

/-- In some state the oracle called the query satisfiable and offered a model that reads as the
trace. -/
def Shown (timestep : Nat) (phase : Phase) (trace : Trace) : Prop :=
  ∃ state model,
    (evaluator.oracle.checkAll (evaluator.task.query constraint timestep phase) state).answer =
      .ok .sat ∧
    evaluator.oracle.model
      (evaluator.oracle.checkAll (evaluator.task.query constraint timestep phase) state).state =
        some model ∧
    model.decode evaluator.program evaluator.property timestep = .ok trace

inductive Grounded (timestep : Nat) : Verdict → Option Trace → Prop where
  | definite {trace : Trace} :
      evaluator.Answered constraint timestep .possible .sat →
      evaluator.Shown constraint timestep .definite trace →
      Grounded timestep .satisfiable (some trace)
  | possible {trace : Trace} :
      evaluator.Shown constraint timestep .possible trace →
      evaluator.Answered constraint timestep .definite .unsat →
      Grounded timestep .unknown (some trace)
  | overtime {reason : String} :
      evaluator.budget ≠ none → Grounded timestep (.inconclusive reason) none
  | undecided {reason : String} :
      evaluator.Answered constraint timestep .possible (.unknown reason) →
      Grounded timestep (.inconclusive reason) none
  | unsettled {trace : Trace} {reason : String} :
      evaluator.Shown constraint timestep .possible trace →
      evaluator.Answered constraint timestep .definite (.unknown reason) →
      Grounded timestep (.inconclusive reason) (some trace)

/-- How an evaluation came to its outcome: every timestep before it was cleared, and the verdict has
its grounds. -/
inductive Accounts (bound start : Nat) (outcome : Outcome) : Prop where
  | found :
      start ≤ outcome.timestep → outcome.timestep ≤ bound →
      (∀ timestep, start ≤ timestep → timestep < outcome.timestep →
        evaluator.Answered constraint timestep .possible .unsat) →
      evaluator.Grounded constraint outcome.timestep outcome.verdict outcome.trace →
      Accounts bound start outcome
  | cleared :
      outcome.verdict = .noErrorFound → outcome.timestep = bound → outcome.trace = none →
      (∀ timestep, start ≤ timestep → timestep ≤ bound →
        evaluator.Answered constraint timestep .possible .unsat) →
      Accounts bound start outcome

end Answers

variable {evaluator : Evaluator σ} {constraint : Option Formula} {timestep : Nat}

/-! ### From judgements to grounds -/

theorem Tells.answered {offered : Response} {queries : Nat} {state : σ}
    (tells : evaluator.Tells timestep
      (evaluator.oracle.response (evaluator.task.query constraint timestep .possible) state) offered
      ⟨none, queries⟩) :
    evaluator.Answered constraint timestep .possible .unsat := by
  generalize responded : evaluator.oracle.response _ state = possible at tells
  cases tells with
  | cleared _ => exact ⟨state, (Oracle.response_eq_ok_iff.mp responded).1⟩

theorem Tells.grounded {finding : Finding} {queries : Nat} {state later : σ}
    (tells : evaluator.Tells timestep
      (evaluator.oracle.response (evaluator.task.query constraint timestep .possible) state)
      (evaluator.oracle.response (evaluator.task.query constraint timestep .definite) later)
      ⟨some finding, queries⟩) :
    evaluator.Grounded constraint timestep finding.verdict finding.trace := by
  generalize first : evaluator.oracle.response _ state = possible at tells
  generalize second : evaluator.oracle.response _ later = definite at tells
  cases tells with
  | undecided _ => exact .undecided ⟨state, (Oracle.response_eq_ok_iff.mp first).1⟩
  | definite _ _ _ decoded =>
      obtain ⟨granted, offered⟩ := Oracle.response_eq_ok_iff.mp second
      exact .definite ⟨state, (Oracle.response_eq_ok_iff.mp first).1⟩
        ⟨later, _, granted, offered, decoded⟩
  | possible _ _ decoded =>
      obtain ⟨granted, offered⟩ := Oracle.response_eq_ok_iff.mp first
      exact .possible ⟨state, _, granted, offered, decoded⟩
        ⟨later, (Oracle.response_eq_ok_iff.mp second).1⟩
  | unsettled _ _ decoded =>
      obtain ⟨granted, offered⟩ := Oracle.response_eq_ok_iff.mp first
      exact .unsettled ⟨state, _, granted, offered, decoded⟩
        ⟨later, (Oracle.response_eq_ok_iff.mp second).1⟩

theorem Judged.answered {queries : Nat}
    (judged : evaluator.Judged constraint timestep (.ok ⟨none, queries⟩)) :
    evaluator.Answered constraint timestep .possible .unsat := by
  generalize plan : Except.ok _ = judgement at judged
  cases judged with
  | overtime _ => cases plan
  | asked state => exact (tells_of_judge plan.symm).answered

theorem Judged.grounded {finding : Finding} {queries : Nat}
    (judged : evaluator.Judged constraint timestep (.ok ⟨some finding, queries⟩)) :
    evaluator.Grounded constraint timestep finding.verdict finding.trace := by
  generalize plan : Except.ok _ = judgement at judged
  cases judged with
  | overtime limited =>
      cases plan
      refine .overtime ?_
      intro unlimited
      rw [unlimited] at limited
      cases limited
  | asked state => exact (tells_of_judge plan.symm).grounded

theorem Surveyed.accounts {bound start : Nat} {outcome : Outcome}
    (surveyed : evaluator.Surveyed constraint bound start (.ok outcome)) :
    evaluator.Accounts constraint bound start outcome := by
  cases surveyed with
  | cleared quiet =>
      refine .cleared rfl rfl rfl ?_
      intro timestep above below
      exact (quiet timestep above (Nat.lt_succ_of_le below)).answered
  | ended within leading concludes =>
      cases concludes with
      | found =>
          refine .found leading.start_le within ?_ leading.judged.grounded
          intro timestep above below
          exact (leading.cleared timestep above below).answered

theorem evaluate_accounts {bound start : Nat} {outcome : Outcome} {session after : Session σ}
    (ran : (evaluator.evaluate bound start constraint).run session = .ok outcome after) :
    start ≤ bound ∧ evaluator.Accounts constraint bound start outcome := by
  have window : start ≤ bound := by
    by_contra beyond
    rw [evaluate_of_lt (Nat.lt_of_not_le beyond)] at ran
    cases ran
  have surveyed := evaluator.evaluate_surveyed window constraint session
  rw [answer_eq_ok_iff.mpr ⟨after, ran⟩] at surveyed
  exact ⟨window, surveyed.accounts⟩

namespace Accounts

variable {bound start : Nat} {outcome : Outcome}

theorem le_bound (accounts : evaluator.Accounts constraint bound start outcome) :
    outcome.timestep ≤ bound := by
  cases accounts with
  | found _ below _ _ => exact below
  | cleared _ place _ _ => exact Nat.le_of_eq place

theorem start_le (accounts : evaluator.Accounts constraint bound start outcome)
    (window : start ≤ bound) : start ≤ outcome.timestep := by
  cases accounts with
  | found above _ _ _ => exact above
  | cleared _ place _ _ => exact place ▸ window

theorem denied_before (accounts : evaluator.Accounts constraint bound start outcome)
    {timestep : Nat} (above : start ≤ timestep) (below : timestep < outcome.timestep) :
    evaluator.Answered constraint timestep .possible .unsat := by
  cases accounts with
  | found _ _ cleared _ => exact cleared timestep above below
  | cleared _ place _ cleared => exact cleared timestep above (by omega)

theorem denied_of_noErrorFound (accounts : evaluator.Accounts constraint bound start outcome)
    (verdict : outcome.verdict = .noErrorFound) :
    outcome.timestep = bound ∧ ∀ timestep, start ≤ timestep → timestep ≤ bound →
      evaluator.Answered constraint timestep .possible .unsat := by
  cases accounts with
  | found _ _ _ grounds =>
      rw [verdict] at grounds
      cases grounds
  | cleared _ place _ cleared => exact ⟨place, cleared⟩

theorem shown_of_unknown (accounts : evaluator.Accounts constraint bound start outcome)
    (verdict : outcome.verdict = .unknown) :
    ∃ trace, outcome.trace = some trace ∧
      evaluator.Shown constraint outcome.timestep .possible trace ∧
      evaluator.Answered constraint outcome.timestep .definite .unsat := by
  cases accounts with
  | found _ _ _ grounds =>
      rw [verdict] at grounds
      generalize found : outcome.trace = trace at grounds
      cases grounds with
      | possible shown denied => exact ⟨_, rfl, shown, denied⟩
  | cleared contrary _ _ _ =>
      rw [verdict] at contrary
      cases contrary

end Accounts

end Evaluator

end Trivalent
