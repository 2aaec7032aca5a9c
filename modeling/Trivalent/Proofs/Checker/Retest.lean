import Trivalent.Proofs.Checker.Chronicle
import Trivalent.Proofs.Checker.Coverage
import Trivalent.Proofs.Evaluator.Realisation

/-!
The retest of a check without refinement. It solves the concrete model once more under the formula of
the trace that was found. The trace comes from a model of one of the two queries, but the retest asks
both again; with a correct oracle and a task that is monotone in the status variable it comes to the
same verdict at the same timestep (`check_retests`).
-/

set_option autoImplicit false

namespace Trivalent

variable {σ : Type}

/-- What the query for a definite violation is answered when a verdict of this phase is given. -/
def Phase.settling : Phase → SatResult
  | .possible => .unsat
  | .definite => .sat

namespace Evaluator

open EvalM

variable {evaluator : Evaluator σ} {constraint : Option Formula} {timestep : Nat} {phase : Phase}

/-- The files of the two queries behind a verdict of this phase can be written. -/
structure Files (evaluator : Evaluator σ) (timestep : Nat) (phase : Phase) : Prop where
  possible : evaluator.filing .possible timestep .sat = .ok ()
  definite : evaluator.filing .definite timestep phase.settling = .ok ()

theorem Tells.files {possible definite : Response} {finding : Finding} {queries : Nat}
    (tells : evaluator.Tells timestep possible definite ⟨some finding, queries⟩)
    (verdict : finding.verdict = phase.verdict) : evaluator.Files timestep phase := by
  cases phase with
  | possible =>
      cases tells with
      | possible filed filedAgain _ => exact ⟨filed, filedAgain⟩
      | undecided _ => cases verdict
      | definite _ _ _ _ => cases verdict
      | unsettled _ _ _ => cases verdict
  | definite =>
      cases tells with
      | definite filed filedAgain _ _ => exact ⟨filed, filedAgain⟩
      | undecided _ => cases verdict
      | possible _ _ _ => cases verdict
      | unsettled _ _ _ => cases verdict

theorem Judged.files (unlimited : evaluator.budget = none) {finding : Finding} {queries : Nat}
    (judged : evaluator.Judged constraint timestep (.ok ⟨some finding, queries⟩))
    (verdict : finding.verdict = phase.verdict) : evaluator.Files timestep phase := by
  obtain ⟨state, plan⟩ := judged.exists_state unlimited
  exact (tells_of_judge plan).files verdict

/-- An evaluation that starts at a certain timestep ends there. -/
theorem Surveyed.of_certain {bound : Nat} {answer : Except CheckError Outcome}
    (surveyed : evaluator.Surveyed constraint bound timestep answer) (within : timestep ≤ bound)
    {verdict : Verdict} (certain : evaluator.Certain constraint timestep verdict) :
    ∃ outcome, answer = .ok outcome ∧ outcome.verdict = verdict ∧ outcome.timestep = timestep ∧
      outcome.queries = 2 ∧ outcome.extensions = timestep := by
  have notCleared : ¬evaluator.Judged constraint timestep (.ok ⟨none, 1⟩) := by
    intro judged
    obtain ⟨_, impossible⟩ := certain _ judged
    cases impossible
  cases surveyed with
  | cleared quiet =>
      exact absurd (quiet timestep (Nat.le_refl _) (Nat.lt_succ_of_le within)) notCleared
  | @ended final _ _ _ leading concludes =>
      have atOnce : timestep = final := by
        by_contra later
        have before := Nat.lt_of_le_of_ne leading.start_le later
        exact notCleared (leading.cleared timestep (Nat.le_refl _) before)
      subst atOnce
      obtain ⟨trace, rfl⟩ := certain _ leading.judged
      cases concludes with
      | found => exact ⟨_, rfl, rfl, rfl, by rw [Nat.sub_self], rfl⟩

theorem Surveyed.files (unlimited : evaluator.budget = none) {bound start : Nat}
    {outcome : Outcome} (surveyed : evaluator.Surveyed constraint bound start (.ok outcome))
    (verdict : outcome.verdict = phase.verdict) : evaluator.Files outcome.timestep phase := by
  cases surveyed with
  | cleared _ => cases phase <;> cases verdict
  | ended _ leading concludes =>
      cases concludes with
      | found => exact leading.judged.files unlimited verdict

/-- Under the formula of its own trace the outcome of an evaluation is certain. -/
theorem certain_of_evaluate (correct : evaluator.oracle.Correct)
    (unlimited : evaluator.budget = none) (monotone : evaluator.task.Monotone) {bound start : Nat}
    {outcome : Outcome} {session after : Session σ}
    (ran : (evaluator.evaluate bound start none).run session = .ok outcome after)
    (verdict : outcome.verdict = phase.verdict) :
    ∃ trace formula, outcome.trace = some trace ∧ trace.formula evaluator.program = .ok formula ∧
      evaluator.Certain (some formula) outcome.timestep phase.verdict := by
  obtain ⟨window, accounts⟩ := evaluate_accounts ran
  obtain ⟨trace, traced, shown⟩ := accounts.shown_of_verdict phase verdict
  obtain ⟨model, decoded, violates, status⟩ := shown.exists_model correct.offersModels
  obtain ⟨formula, encoded, follows⟩ := Model.exists_formula_of_decode decoded
  have surveyed := evaluator.evaluate_surveyed window none session
  rw [answer_eq_ok_iff.mpr ⟨after, ran⟩] at surveyed
  have files := surveyed.files unlimited verdict
  have here : evaluator.task.Reachable (some formula) outcome.timestep phase.polarity :=
    ⟨model.reading, Task.violates_some_iff.mpr ⟨violates, follows⟩, status⟩
  refine ⟨trace, formula, traced, encoded, ?_⟩
  cases phase with
  | possible =>
      have indefinite : ¬evaluator.task.Reachable (some formula) outcome.timestep false := by
        rintro ⟨assignment, definite, false⟩
        obtain ⟨_, _, _, denied⟩ := accounts.shown_of_unknown verdict
        apply not_reachable_of_denied correct.sound denied
        exact ⟨assignment, (Task.violates_some_iff.mp definite).1, false⟩
      exact certain_possible correct unlimited files.possible files.definite here indefinite
  | definite =>
      -- the path is that of a model with the status variable false, and does not mention it
      have onLocations : formula.OnLocations := fun name => Trace.mem_names_formula encoded
      have kept := onLocations.eval_eq (model.reading.sameLocations_update_status (some true))
      have violation := monotone outcome.timestep model.reading violates status
      have possible : evaluator.task.Reachable (some formula) outcome.timestep true :=
        ⟨_, Task.violates_some_iff.mpr ⟨violation, kept.trans follows⟩,
          Assignment.status_update _ true⟩
      exact certain_definite correct unlimited files.possible files.definite possible here

end Evaluator

namespace Checker

open EvalM

variable {checker : Checker σ}

/-- A check without refinement is a check of the concrete model and a retest. -/
theorem check_of_retest (alone : checker.property.multiModel = false)
    (twice : checker.property.doubleTest = true) {outcome : Outcome} {again : Option Outcome}
    {session middle : Session σ} (ran : checker.checkConcrete.run session = .ok outcome middle)
    (retested : (checker.retest outcome).answer middle = .ok again) :
    ∃ result, checker.check.answer session = .ok result ∧ result.outcome = outcome ∧
      result.refinement = none ∧ result.retest = again := by
  obtain ⟨after, retested⟩ := answer_eq_ok_iff.mp retested
  refine ⟨⟨outcome, none, again, after.now - session.now⟩, ?_, rfl, rfl, rfl⟩
  unfold check
  rw [answer_bind_ok (run_now session), if_neg (Bool.eq_false_iff.mp alone), answer_bind_ok ran,
    pure_bind]
  simp only [twice, if_true]
  rw [answer_bind_ok retested]
  rfl

theorem retest_none {outcome : Outcome}
    (quiet : ¬(outcome.verdict = .satisfiable ∨ outcome.verdict = .unknown))
    (session : Session σ) : (checker.retest outcome).answer session = .ok none := by
  unfold retest
  rw [if_neg quiet]
  rfl

theorem retest_some {outcome : Outcome} {formula : Formula} {property : Outcome → Prop}
    (violation : outcome.verdict = .satisfiable ∨ outcome.verdict = .unknown)
    (encoded : (outcome.trace.getD {}).formula checker.concrete.program = .ok formula)
    (evaluated : ∀ session, ∃ again, (checker.concrete.evaluate checker.bound outcome.timestep
      (some formula)).answer session = .ok again ∧ property again)
    (session : Session σ) :
    ∃ again, (checker.retest outcome).answer session = .ok (some again) ∧ property again := by
  have formulated : (checker.traceFormula outcome).run session = .ok formula session := by
    unfold traceFormula
    rw [encoded]
    rfl
  obtain ⟨again, answered, holds⟩ := evaluated
    { session with journal := session.journal ++ [.note (.retest outcome.timestep)] }
  obtain ⟨after, ran⟩ := answer_eq_ok_iff.mp answered
  refine ⟨again, ?_, holds⟩
  unfold retest
  rw [if_pos violation, answer_bind_ok formulated, answer_bind_ok (run_note _ session),
    answer_bind_ok ran]
  split
  · rfl
  · rfl

theorem check_retests (checker : Checker σ) (alone : checker.property.multiModel = false)
    (twice : checker.property.doubleTest = true) (unlimited : checker.concrete.budget = none)
    (correct : checker.concrete.oracle.Correct) (monotone : checker.concrete.task.Monotone)
    (session : Session σ) :
    (checker.concrete.dump = none → checker.checkConcrete.Succeeds session) ∧
    ∀ outcome, checker.checkConcrete.answer session = .ok outcome →
      ∃ result, checker.check.answer session = .ok result ∧ result.outcome = outcome ∧
        result.refinement = none ∧
        (outcome.verdict = .satisfiable ∨ outcome.verdict = .unknown →
          ∃ again, result.retest = some again ∧ again.verdict = outcome.verdict ∧
            again.timestep = outcome.timestep ∧ again.queries = 2 ∧
            again.extensions = outcome.timestep) ∧
        (outcome.verdict = .noErrorFound → result.retest = none) := by
  refine ⟨fun unwritten => Evaluator.evaluate_succeeds correct.reliable unwritten
    checker.startFrom_le_bound none session, ?_⟩
  intro outcome answered
  obtain ⟨middle, ran⟩ := answer_eq_ok_iff.mp answered
  by_cases violation : outcome.verdict = .satisfiable ∨ outcome.verdict = .unknown
  · obtain ⟨phase, verdict⟩ : ∃ phase : Phase, outcome.verdict = phase.verdict := by
      rcases violation with definite | possible
      · exact ⟨.definite, definite⟩
      · exact ⟨.possible, possible⟩
    obtain ⟨trace, formula, traced, encoded, certain⟩ :=
      Evaluator.certain_of_evaluate correct unlimited monotone ran verdict
    have within := (Evaluator.evaluate_accounts ran).2.le_bound
    rw [← verdict] at certain
    obtain ⟨again, retested, same⟩ := checker.retest_some violation
      (by rw [traced]; exact encoded)
      (fun later => (checker.concrete.evaluate_surveyed within (some formula) later).of_certain
        within certain) middle
    obtain ⟨result, checked, primary, unrefined, retest⟩ :=
      check_of_retest alone twice ran retested
    refine ⟨result, checked, primary, unrefined, fun _ => ⟨again, retest, same⟩, ?_⟩
    intro quiet
    rw [quiet] at violation
    rcases violation with impossible | impossible <;> cases impossible
  · obtain ⟨result, checked, primary, unrefined, retest⟩ :=
      check_of_retest alone twice ran (retest_none violation middle)
    exact ⟨result, checked, primary, unrefined, fun found => absurd found violation,
      fun _ => retest⟩

/-- A model that is checked from timestep 1 on, with a retest. -/
def retesting (task : Task) : Checker Exhaustive where
  models := [.single Exhaustive.oracle task]
  property := { doubleTest := true }
  settings := { bound := 2, startFrom := 1 }
  nonempty := List.cons_ne_nil _ _
  valid := rfl
  paired := nofun

theorem check_retests_wavering :
    ∃ result again, (retesting .wavering).check.answer { oracle := {} } = .ok result ∧
      result.outcome.verdict = .satisfiable ∧ result.outcome.timestep = 1 ∧
      result.retest = some again ∧ again.verdict = .satisfiable ∧ again.timestep = 1 ∧
      again.queries = 2 ∧ again.extensions = 1 := by
  obtain ⟨_, retests⟩ := check_retests (retesting .wavering) rfl rfl rfl
    Exhaustive.oracle_correct Task.wavering_monotone { oracle := {} }
  have viewed : (((retesting .wavering).checkConcrete.run' { oracle := {} }).map
      fun outcome => (outcome.verdict, outcome.timestep)) = some (.satisfiable, 1) := by
    decide +kernel
  obtain ⟨outcome, after, ran, seen⟩ := EvalM.exists_run_of_run' viewed
  obtain ⟨verdict, timestep⟩ := Prod.mk.inj seen
  obtain ⟨result, checked, rfl, _, found, _⟩ := retests outcome (answer_eq_ok_iff.mpr ⟨after, ran⟩)
  obtain ⟨again, retest, same, place, queries, extensions⟩ := found (Or.inl verdict)
  exact ⟨result, again, checked, verdict, timestep, retest, same.trans verdict,
    place.trans timestep, queries, extensions.trans timestep⟩

end Checker

end Trivalent
