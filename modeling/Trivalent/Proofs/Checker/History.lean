import Trivalent.Checker
import Trivalent.Proofs.Evaluator.Answers

/-!
How a refinement runs. `Reached` are the points between rounds: every round up to there replayed a
possible violation of the abstract model and refuted it. `Concluded` are the ways to end from such a
point. A refinement that returns reached some point and concluded there (`refine_concluded`), so what
holds of a whole refinement is shown by induction on `Reached`.
-/

set_option autoImplicit false

namespace Trivalent.Checker

open EvalM

variable {σ : Type}

namespace Progress

def constraint (progress : Progress) : Option Formula :=
  if progress.excluded.isEmpty then none else some (Formula.conj progress.excluded)

def round (progress : Progress) (abstract : Outcome) (concrete : Option Outcome) : Round :=
  { round := progress.rounds.length
    start := progress.start
    constraint := Formula.conj progress.excluded
    excluded := progress.excluded.length
    abstract
    concrete }

/-- What is left after a round whose trace has this formula, if the trace is refuted. -/
def refute (progress : Progress) (abstract : Outcome) (formula : Formula) (concrete : Outcome) :
    Progress :=
  { start := abstract.timestep
    excluded := progress.excluded ++ [formula.negate]
    rounds := progress.rounds ++ [progress.round abstract (some concrete)] }

theorem holds_constraint_iff {progress : Progress} {assignment : Assignment} :
    (∀ formula ∈ progress.constraint, formula.eval assignment = true) ↔
      ∀ formula ∈ progress.excluded, formula.eval assignment = true := by
  unfold constraint
  cases progress.excluded with
  | nil => simp only [List.isEmpty_nil, if_true, Option.mem_def, reduceCtorEq, false_implies,
      implies_true, List.not_mem_nil]
  | cons first rest => simp only [List.isEmpty_cons, Bool.false_eq_true, if_false, Option.mem_def,
      Option.some.injEq, forall_eq', Formula.eval_conj_iff]

end Progress

variable (checker : Checker σ)

/-- The abstract model showed a possible violation under the constraint of this round, and the replay
of its trace on the concrete model came to an outcome. -/
structure Replayed (progress : Progress) (abstract : Outcome) (formula : Formula)
    (concrete : Outcome) : Prop where
  shown : checker.abstract.Accounts progress.constraint checker.bound progress.start abstract
  unknown : abstract.verdict = .unknown
  encoded : (abstract.trace.getD {}).formula checker.concrete.program = .ok formula
  replayed : checker.concrete.Accounts (some formula) checker.bound abstract.timestep concrete

inductive Reached : Progress → Prop where
  | start : Reached { start := checker.settings.startFrom.toNat }
  | refuted {progress : Progress} {abstract : Outcome} {formula : Formula} {concrete : Outcome} :
      Reached progress → checker.Replayed progress abstract formula concrete →
      concrete.verdict = .unknown ∨ concrete.verdict = .noErrorFound →
      Reached (progress.refute abstract formula concrete)

inductive Concluded (progress : Progress) : Outcome → Refinement → Prop where
  | settled {outcome : Outcome} :
      checker.abstract.Accounts progress.constraint checker.bound progress.start outcome →
      outcome.verdict = .satisfiable ∨ outcome.verdict = .noErrorFound →
      Concluded progress outcome ⟨progress.rounds ++ [progress.round outcome none], .abstractDefinite⟩
  | unsettled {outcome : Outcome} {reason : String} :
      checker.abstract.Accounts progress.constraint checker.bound progress.start outcome →
      outcome.verdict = .inconclusive reason →
      Concluded progress outcome ⟨progress.rounds ++ [progress.round outcome none], .inconclusive⟩
  | confirmed {abstract : Outcome} {formula : Formula} {concrete : Outcome} :
      checker.Replayed progress abstract formula concrete → concrete.verdict = .satisfiable →
      Concluded progress concrete
        ⟨progress.rounds ++ [progress.round abstract (some concrete)], .concreteConfirmed⟩
  | stalled {abstract : Outcome} {formula : Formula} {concrete : Outcome} {reason : String} :
      checker.Replayed progress abstract formula concrete →
      concrete.verdict = .inconclusive reason →
      Concluded progress concrete
        ⟨progress.rounds ++ [progress.round abstract (some concrete)], .inconclusive⟩
  | exhausted :
      progress.rounds.length = checker.settings.maxRefinements.toNat →
      Concluded progress (Checker.exhausted checker.settings.maxRefinements.toNat progress)
        ⟨progress.rounds, .roundsExhausted⟩

inductive Stepped (progress : Progress) : Step → Prop where
  | stop {outcome : Outcome} {refinement : Refinement} :
      checker.Concluded progress outcome refinement → Stepped progress (.stop outcome refinement)
  | next {abstract : Outcome} {formula : Formula} {concrete : Outcome} :
      checker.Replayed progress abstract formula concrete →
      concrete.verdict = .unknown ∨ concrete.verdict = .noErrorFound →
      Stepped progress (.next (progress.refute abstract formula concrete))

variable {checker}

namespace Replayed

variable {progress : Progress} {abstract : Outcome} {formula : Formula} {concrete : Outcome}

theorem trace (replayed : checker.Replayed progress abstract formula concrete) :
    ∃ trace, abstract.trace = some trace ∧ trace.formula checker.concrete.program = .ok formula ∧
      checker.abstract.Shown progress.constraint abstract.timestep .possible trace := by
  obtain ⟨trace, found, shown, _⟩ := replayed.shown.shown_of_unknown replayed.unknown
  have encoded := replayed.encoded
  rw [found, Option.getD_some] at encoded
  exact ⟨trace, found, encoded, shown⟩

theorem start_le (replayed : checker.Replayed progress abstract formula concrete) :
    progress.start ≤ abstract.timestep := by
  cases replayed.shown with
  | found above _ _ _ => exact above
  | cleared contrary _ _ _ => cases replayed.unknown.symm.trans contrary

end Replayed

theorem traceFormula_ok {outcome : Outcome} {formula : Formula} {session after : Session σ}
    (ran : (checker.traceFormula outcome).run session = .ok formula after) :
    (outcome.trace.getD {}).formula checker.concrete.program = .ok formula := by
  unfold traceFormula at ran
  cases encoded : (outcome.trace.getD {}).formula checker.concrete.program with
  | ok found =>
      rw [encoded] at ran
      cases ran
      rfl
  | error source =>
      rw [encoded] at ran
      exact absurd ran not_throw_ok

theorem replay_ok {progress : Progress} {abstract : Outcome} {step : Step}
    {session after : Session σ}
    (shown : checker.abstract.Accounts progress.constraint checker.bound progress.start abstract)
    (unknown : abstract.verdict = .unknown)
    (ran : (checker.replay progress.rounds.length progress (progress.round abstract none)).run
      session = .ok step after) :
    checker.Stepped progress step := by
  obtain ⟨formula, _, encoding, rest⟩ := bind_ok_iff.mp ran
  obtain ⟨_, _, _, rest⟩ := bind_ok_iff.mp rest
  obtain ⟨concrete, _, evaluated, rest⟩ := bind_ok_iff.mp rest
  have replayed : checker.Replayed progress abstract formula concrete :=
    ⟨shown, unknown, traceFormula_ok encoding, (Evaluator.evaluate_accounts evaluated).2⟩
  cases verdict : concrete.verdict with
  | satisfiable =>
      simp only [verdict] at rest
      cases rest
      exact .stop (.confirmed replayed verdict)
  | inconclusive reason =>
      simp only [verdict] at rest
      cases rest
      exact .stop (.stalled replayed verdict)
  | unknown =>
      simp only [verdict] at rest
      cases rest
      exact .next replayed (Or.inl verdict)
  | noErrorFound =>
      simp only [verdict] at rest
      cases rest
      exact .next replayed (Or.inr verdict)

theorem refineOnce_ok {progress : Progress} {step : Step} {session after : Session σ}
    (ran : (checker.refineOnce progress.rounds.length progress).run session = .ok step after) :
    checker.Stepped progress step := by
  obtain ⟨_, _, _, rest⟩ := bind_ok_iff.mp ran
  obtain ⟨outcome, _, evaluated, rest⟩ := bind_ok_iff.mp rest
  have accounts : checker.abstract.Accounts progress.constraint checker.bound progress.start outcome :=
    (Evaluator.evaluate_accounts evaluated).2
  cases verdict : outcome.verdict with
  | satisfiable =>
      simp only [verdict] at rest
      cases rest
      exact .stop (.settled accounts (Or.inl verdict))
  | noErrorFound =>
      simp only [verdict] at rest
      cases rest
      exact .stop (.settled accounts (Or.inr verdict))
  | inconclusive reason =>
      simp only [verdict] at rest
      cases rest
      exact .stop (.unsettled accounts verdict)
  | unknown =>
      simp only [verdict] at rest
      exact replay_ok accounts verdict rest

theorem Concluded.length_le {progress : Progress} {outcome : Outcome} {refinement : Refinement}
    (concluded : checker.Concluded progress outcome refinement) :
    refinement.rounds.length ≤ progress.rounds.length + 1 := by
  cases concluded with
  | settled _ _ => exact Nat.le_of_eq List.length_append
  | unsettled _ _ => exact Nat.le_of_eq List.length_append
  | confirmed _ _ => exact Nat.le_of_eq List.length_append
  | stalled _ _ => exact Nat.le_of_eq List.length_append
  | exhausted _ => exact Nat.le_succ _

/-- The number of the next round is the number of rounds done, and with the rounds left it makes the
limit. -/
theorem refineFrom_concluded {left : Nat} {progress : Progress} {outcome : Outcome}
    {refinement : Refinement} {session after : Session σ} (reached : checker.Reached progress)
    (limit : left + progress.rounds.length = checker.settings.maxRefinements.toNat)
    (ran : (checker.refineFrom left progress.rounds.length progress).run session =
      .ok (outcome, refinement) after) :
    ∃ last, checker.Reached last ∧ checker.Concluded last outcome refinement ∧
      refinement.rounds.length ≤ checker.settings.maxRefinements.toNat := by
  induction left generalizing progress session with
  | zero =>
      obtain ⟨_, _, _, rest⟩ := bind_ok_iff.mp ran
      cases rest
      have used : progress.rounds.length = checker.settings.maxRefinements.toNat := by omega
      exact ⟨progress, reached, .exhausted used, Nat.le_of_eq used⟩
  | succ left ih =>
      obtain ⟨step, middle, stepped, rest⟩ := bind_ok_iff.mp ran
      cases refineOnce_ok stepped with
      | stop concluded =>
          cases rest
          have added := concluded.length_le
          exact ⟨progress, reached, concluded, by omega⟩
      | @next abstract formula concrete replayed refuted =>
          have counted : (progress.refute abstract formula concrete).rounds.length =
              progress.rounds.length + 1 := List.length_append
          have remaining : (checker.refineFrom left
              (progress.refute abstract formula concrete).rounds.length
              (progress.refute abstract formula concrete)).run middle =
                .ok (outcome, refinement) after := by
            rw [counted]
            exact rest
          exact ih (.refuted reached replayed refuted) (by omega) remaining

theorem refine_concluded_within {outcome : Outcome} {refinement : Refinement}
    {session after : Session σ}
    (ran : checker.refine.run session = .ok (outcome, refinement) after) :
    ∃ last, checker.Reached last ∧ checker.Concluded last outcome refinement ∧
      refinement.rounds.length ≤ checker.settings.maxRefinements.toNat :=
  refineFrom_concluded .start (Nat.add_zero _) ran

theorem refine_concluded {outcome : Outcome} {refinement : Refinement} {session after : Session σ}
    (ran : checker.refine.run session = .ok (outcome, refinement) after) :
    ∃ last, checker.Reached last ∧ checker.Concluded last outcome refinement := by
  obtain ⟨last, reached, concluded, _⟩ := refine_concluded_within ran
  exact ⟨last, reached, concluded⟩

end Trivalent.Checker
