import Trivalent.Proofs.Checker.Chronicle
import Trivalent.Proofs.Checker.Isolation
import Trivalent.Proofs.Evaluator.Budget

/-!
The time of a whole check. Its evaluations follow one another on one clock, each with an outcome that
is reported, so that together they never take longer than the check (`time_accounted`).
-/

set_option autoImplicit false

namespace Trivalent

variable {σ : Type}

/-- The outcomes that reporters were told. -/
def Session.outcomes (session : Session σ) : List Outcome :=
  session.told.filterMap fun report => report.2.outcome?

/-- The outcomes of all evaluations behind a result, in order. -/
def CheckResult.evaluations (result : CheckResult) : List Outcome :=
  result.refinement.elim [result.outcome]
    (fun refinement => refinement.rounds.flatMap Round.evaluations) ++ result.retest.toList

/-- Between two sessions evaluations with these outcomes take place. -/
structure Spans (session after : Session σ) (outcomes : List Outcome) : Prop where
  told : after.outcomes = session.outcomes ++ outcomes
  time : session.now + (outcomes.map Outcome.elapsed).sum ≤ after.now

namespace Spans

variable {session middle after : Session σ} {outcomes more : List Outcome}

theorem refl (session : Session σ) : Spans session session [] :=
  ⟨(List.append_nil _).symm, Nat.le_refl _⟩

theorem trans (first : Spans session middle outcomes) (second : Spans middle after more) :
    Spans session after (outcomes ++ more) where
  told := by rw [second.told, first.told, List.append_assoc]
  time := by
    rw [List.map_append, List.sum_append, ← Nat.add_assoc]
    exact Nat.le_trans (Nat.add_le_add_right first.time _) second.time

theorem noted (spans : Spans session after outcomes) (content : Note) :
    Spans session { after with journal := after.journal ++ [.note content] } outcomes where
  told := by
    rw [← spans.told]
    unfold Session.outcomes
    rw [Session.told_concat rfl]
  time := spans.time

end Spans

open EvalM

theorem Evaluator.evaluate_spans {evaluator : Evaluator σ} {constraint : Option Formula}
    {bound start : Nat} {outcome : Outcome} {session after : Session σ}
    (ran : (evaluator.evaluate bound start constraint).run session = .ok outcome after) :
    Spans session after [outcome] := by
  obtain ⟨questions, reports, halt, course, follows⟩ :=
    evaluator.evaluate_course (evaluate_accounts ran).1 constraint session
  have answered := answer_eq_ok_iff.mpr ⟨after, ran⟩
  have ends : (evaluator.evaluate bound start constraint).final session = after := by
    rw [final, ran]
  have passes := follows.proceeds.passes
  rw [ends, answered] at passes
  have unfinished : reports.filterMap Report.outcome? = [] := by
    rw [course.filterMap_reports fun _ _ _ => rfl]
    exact List.filterMap_none _
  constructor
  · unfold Session.outcomes
    rw [passes.told, List.filterMap_append, List.filterMap_map]
    refine congrArg _ ?_
    refine (List.filterMap_append : List.filterMap Report.outcome? _ = _).trans ?_
    rw [unfinished]
    rfl
  · have reached : after.now = (evaluator.reached constraint questions session.moment).now :=
      congrArg Moment.now passes.moment
    rw [reached, now_reached, ← follows.elapsed answered]
    exact Nat.le_refl _

namespace Checker

variable {checker : Checker σ} {session after : Session σ}

theorem traceFormula_spans {outcome : Outcome} {formula : Formula}
    (ran : (checker.traceFormula outcome).run session = .ok formula after) :
    Spans session after [] := by
  unfold traceFormula at ran
  split at ran
  · cases ran
    exact .refl session
  · exact absurd ran not_throw_ok

/-- The rounds so far, with the one that led to the step. -/
def Step.rounds : Step → List Round
  | .stop _ refinement => refinement.rounds
  | .next progress => progress.rounds

theorem replay_spans {number : Nat} {progress : Progress} {round : Round} {step : Step}
    (ran : (checker.replay number progress round).run session = .ok step after) :
    ∃ concrete, step.rounds = progress.rounds ++ [{ round with concrete := some concrete }] ∧
      Spans session after [concrete] := by
  obtain ⟨formula, encoded, encoding, rest⟩ := bind_ok_iff.mp ran
  obtain ⟨_, _, noted, rest⟩ := bind_ok_iff.mp rest
  cases noted
  obtain ⟨concrete, _, evaluated, rest⟩ := bind_ok_iff.mp rest
  have spans := ((traceFormula_spans encoding).noted (.replay number round.abstract.timestep)).trans
    (Evaluator.evaluate_spans evaluated)
  refine ⟨concrete, ?_⟩
  cases verdict : concrete.verdict with
  | satisfiable =>
      simp only [verdict] at rest
      cases rest
      exact ⟨rfl, spans.noted _⟩
  | inconclusive reason =>
      simp only [verdict] at rest
      cases rest
      exact ⟨rfl, spans⟩
  | unknown =>
      simp only [verdict] at rest
      cases rest
      exact ⟨rfl, spans.noted _⟩
  | noErrorFound =>
      simp only [verdict] at rest
      cases rest
      exact ⟨rfl, spans.noted _⟩

/-- A round adds its own evaluations. -/
theorem refineOnce_spans {number : Nat} {progress : Progress} {step : Step}
    (ran : (checker.refineOnce number progress).run session = .ok step after) :
    ∃ round, step.rounds = progress.rounds ++ [round] ∧ Spans session after round.evaluations := by
  obtain ⟨_, _, noted, rest⟩ := bind_ok_iff.mp ran
  cases noted
  obtain ⟨outcome, _, evaluated, rest⟩ := bind_ok_iff.mp rest
  have spans := ((Spans.refl session).noted _).trans (Evaluator.evaluate_spans evaluated)
  cases verdict : outcome.verdict with
  | satisfiable =>
      simp only [verdict] at rest
      cases rest
      exact ⟨_, rfl, spans⟩
  | noErrorFound =>
      simp only [verdict] at rest
      cases rest
      exact ⟨_, rfl, spans⟩
  | inconclusive reason =>
      simp only [verdict] at rest
      cases rest
      exact ⟨_, rfl, spans⟩
  | unknown =>
      simp only [verdict] at rest
      obtain ⟨concrete, added, replayed⟩ := replay_spans rest
      exact ⟨_, added, spans.trans replayed⟩

theorem refineFrom_spans {left number : Nat} {progress : Progress} {outcome : Outcome}
    {refinement : Refinement}
    (ran : (checker.refineFrom left number progress).run session =
      .ok (outcome, refinement) after) :
    ∃ rounds, refinement.rounds = progress.rounds ++ rounds ∧
      Spans session after (rounds.flatMap Round.evaluations) := by
  induction left generalizing number progress session with
  | zero =>
      obtain ⟨_, _, noted, rest⟩ := bind_ok_iff.mp ran
      cases noted
      cases rest
      exact ⟨[], (List.append_nil _).symm, (Spans.refl session).noted _⟩
  | succ left ih =>
      obtain ⟨step, middle, stepped, rest⟩ := bind_ok_iff.mp ran
      obtain ⟨round, added, spans⟩ := refineOnce_spans stepped
      cases step with
      | stop final ending =>
          cases rest
          refine ⟨[round], added, ?_⟩
          rw [List.flatMap_singleton]
          exact spans
      | next later =>
          obtain ⟨rounds, rounded, further⟩ := ih rest
          have added : later.rounds = progress.rounds ++ [round] := added
          refine ⟨round :: rounds, ?_, spans.trans further⟩
          rw [rounded, added, List.append_assoc, List.singleton_append]

theorem refine_spans {outcome : Outcome} {refinement : Refinement}
    (ran : checker.refine.run session = .ok (outcome, refinement) after) :
    Spans session after (refinement.rounds.flatMap Round.evaluations) := by
  obtain ⟨rounds, all, spans⟩ := refineFrom_spans ran
  rw [all]
  exact spans

theorem retest_spans {outcome : Outcome} {again : Option Outcome}
    (ran : (checker.retest outcome).run session = .ok again after) :
    Spans session after again.toList := by
  unfold retest at ran
  split at ran
  · obtain ⟨formula, _, encoding, rest⟩ := bind_ok_iff.mp ran
    obtain ⟨_, _, noted, rest⟩ := bind_ok_iff.mp rest
    cases noted
    obtain ⟨second, _, evaluated, rest⟩ := bind_ok_iff.mp rest
    have spans := ((traceFormula_spans encoding).noted (.retest outcome.timestep)).trans
      (Evaluator.evaluate_spans evaluated)
    split at rest
    · cases rest
      exact spans
    · cases rest
      exact spans.noted _
  · cases ran
    exact .refl session

theorem primary_spans {outcome : Outcome} {refinement : Option Refinement}
    (ran : checker.primary.run session = .ok (outcome, refinement) after) :
    Spans session after (refinement.elim [outcome]
      fun refinement => refinement.rounds.flatMap Round.evaluations) := by
  unfold primary at ran
  split at ran
  · obtain ⟨ended, _, refined, rest⟩ := bind_ok_iff.mp ran
    cases rest
    exact refine_spans refined
  · obtain ⟨found, _, evaluated, rest⟩ := bind_ok_iff.mp ran
    cases rest
    exact Evaluator.evaluate_spans evaluated

theorem secondary_spans {outcome : Outcome} {again : Option Outcome}
    (ran : (checker.secondary outcome).run session = .ok again after) :
    Spans session after again.toList := by
  unfold secondary at ran
  split at ran
  · exact retest_spans ran
  · cases ran
    exact .refl session

theorem check_spans {result : CheckResult}
    (ran : checker.check.run session = .ok result after) :
    Spans session after result.evaluations ∧ result.elapsed = after.now - session.now := by
  rw [check_eq] at ran
  obtain ⟨started, _, begun, rest⟩ := bind_ok_iff.mp ran
  cases begun
  obtain ⟨⟨outcome, refinement⟩, _, first, rest⟩ := bind_ok_iff.mp rest
  obtain ⟨again, _, second, rest⟩ := bind_ok_iff.mp rest
  cases rest
  exact ⟨(primary_spans first).trans (secondary_spans second), rfl⟩

/-- Every evaluation keeps its time: the queries that it reports took no longer than itself, none for
a possible violation begins after its timeout, and it ends for the timeout exactly at the first
timestep that begins too late, if a violation is denied up to there. The evaluations of a whole check
are all reported and took no longer than the check. -/
theorem time_accounted (σ : Type) :
    (∀ (base : Evaluator σ) (settings : Settings) (disk : String → Site)
      (constraint : Option Formula) (bound start : Nat), start ≤ bound → ∀ session : Session σ,
        ∃ questions reports, (base.withSettings settings disk).KeepsTime constraint
          settings.timeoutSecs.toNat bound start session questions reports) ∧
    ∀ (checker : Checker σ) (session after : Session σ) (result : CheckResult),
      checker.check.run session = .ok result after →
        after.outcomes = session.outcomes ++ result.evaluations ∧
        (result.evaluations.map Outcome.elapsed).sum ≤ result.elapsed := by
  constructor
  · intro base settings disk constraint bound start window session
    exact Evaluator.evaluate_keepsTime (base.budget_withSettings settings disk) window constraint
      session
  · intro checker session after result ran
    obtain ⟨spans, elapsed⟩ := check_spans ran
    refine ⟨spans.told, ?_⟩
    rw [elapsed]
    exact Nat.le_sub_of_add_le' spans.time

end Checker

/-- An oracle that needs more than half a second for a query. -/
def Bench.slow : Bench :=
  { answering := .script [.unsat, .unsat, .sat (some (.ofList [])), .unsat, .unsat, .unsat],
    takes := [600000000, 700000000] }

/-- One model with a timeout of a second. -/
def Evaluator.hurried : Evaluator Bench :=
  (single Bench.oracle .walk).withSettings { timeoutSecs := 1 } fun _ => .free

namespace Checker

/-- One model, which is solved once more under its trace. -/
def alone : Checker Bench where
  models := [.single Bench.oracle .walk]
  property := { doubleTest := true }
  settings := { bound := 3, startFrom := 1 }
  nonempty := List.cons_ne_nil _ _
  valid := rfl
  paired contrary := absurd contrary Bool.false_ne_true

theorem time_accounted_slow :
    Evaluator.hurried.Expires none (.ofSeconds 1) 3 0 ⟨.slow, 0⟩ 2 ∧
    ∃ result after,
      alone.check.run { oracle := Bench.slow } = .ok result after ∧ result.evaluations.length = 2 ∧
      (result.evaluations.map Outcome.elapsed).sum ≤ result.elapsed := by
  obtain ⟨evaluations, checks⟩ := time_accounted Bench
  obtain ⟨_, _, keeps⟩ := evaluations (.single Bench.oracle .walk) { timeoutSecs := 1 }
    (fun _ => .free) none 3 0 (by decide) { oracle := Bench.slow }
  have ended : ((Evaluator.hurried.evaluate 3 0 none).run' { oracle := Bench.slow }).map
      (fun outcome => (outcome.verdict, outcome.timestep, outcome.queries)) =
        some (.inconclusive "concrete used up its 1s budget before timestep 2", 2, 2) := by
    decide +kernel
  obtain ⟨outcome, _, ran, seen⟩ := EvalM.exists_run_of_run' ended
  simp only [Prod.mk.injEq] at seen
  obtain ⟨verdict, timestep, queries⟩ := seen
  have spent := (keeps.spent_iff (by decide) 2).mp
    ⟨outcome, answer_eq_ok_iff.mpr ⟨_, ran⟩, verdict, timestep, queries⟩
  have viewed : (alone.check.run' { oracle := Bench.slow }).map
      (fun result => result.evaluations.length) = some 2 := by
    decide +kernel
  obtain ⟨result, after, checked, count⟩ := EvalM.exists_run_of_run' viewed
  exact ⟨spent.1, result, after, checked, count, (checks alone _ _ _ checked).2⟩

end Checker

end Trivalent
