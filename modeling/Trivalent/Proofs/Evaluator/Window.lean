import Trivalent.Proofs.Evaluator.Decision

/-!
A window can be split anywhere. If the oracle's response to a query depends on nothing but the query,
then so does the judgement of a timestep, and an evaluation that is cleared up to the middle of its
window goes on as one that starts there (`evaluate_splits`). A later start skips queries and nothing
else.
-/

set_option autoImplicit false

namespace Trivalent

variable {σ : Type}

/-- The response to a formula that is asserted alone does not depend on what was asked before. -/
def Oracle.Memoryless (oracle : Oracle σ) : Prop :=
  ∀ (formula : Formula) (first second : σ),
    oracle.response [formula] first = oracle.response [formula] second

theorem Oracle.Memoryless.response_eq {oracle : Oracle σ} (memoryless : oracle.Memoryless)
    (parts : List Formula) (first second : σ) :
    oracle.response parts first = oracle.response parts second :=
  memoryless (Formula.conj parts) first second

theorem Exhaustive.oracle_memoryless : oracle.Memoryless := fun _ _ _ => rfl

/-- The outcomes tell the same. They may differ in the queries asked and in the time taken. -/
structure Outcome.Coincides (left right : Outcome) : Prop where
  verdict : left.verdict = right.verdict
  timestep : left.timestep = right.timestep
  trace : left.trace = right.trace
  extensions : left.extensions = right.extensions

/-- How the answer of an evaluation is put together from that of the first part of its window and that
of the rest. -/
inductive Splits : (part whole rest : Except CheckError Outcome) → Prop where
  | failed {problem : CheckError} {rest : Except CheckError Outcome} :
      Splits (.error problem) (.error problem) rest
  | stopped {part whole : Outcome} {rest : Except CheckError Outcome} :
      part.verdict ≠ .noErrorFound → part.Coincides whole → part.queries = whole.queries →
      Splits (.ok part) (.ok whole) rest
  | failedLater {part : Outcome} {problem : CheckError} :
      part.verdict = .noErrorFound → Splits (.ok part) (.error problem) (.error problem)
  | continued {part whole rest : Outcome} :
      part.verdict = .noErrorFound → whole.Coincides rest →
      whole.queries = part.queries + rest.queries → Splits (.ok part) (.ok whole) (.ok rest)

namespace Evaluator

variable {evaluator : Evaluator σ} {constraint : Option Formula}

/-! ### One judgement for each timestep -/

theorem Judged.unique (memoryless : evaluator.oracle.Memoryless)
    (unlimited : evaluator.budget = none) {timestep : Nat}
    {first second : Except CheckError Judgement}
    (judged : evaluator.Judged constraint timestep first)
    (judgedAgain : evaluator.Judged constraint timestep second) : first = second := by
  obtain ⟨state, rfl⟩ := judged.exists_state unlimited
  obtain ⟨other, rfl⟩ := judgedAgain.exists_state unlimited
  exact congrArg₂ (evaluator.judge timestep) (memoryless.response_eq ..) (memoryless.response_eq ..)

theorem Concludes.ne_cleared {start timestep queries : Nat}
    {judgement : Except CheckError Judgement} {answer : Except CheckError Outcome}
    (concludes : Concludes start timestep judgement answer) : judgement ≠ .ok ⟨none, queries⟩ := by
  cases concludes <;> nofun

theorem Leading.restart {start middle timestep : Nat} {judgement : Except CheckError Judgement}
    (leading : evaluator.Leading constraint start timestep judgement) (before : start ≤ middle)
    (after : middle ≤ timestep) : evaluator.Leading constraint middle timestep judgement where
  start_le := after
  cleared other above below := leading.cleared other (Nat.le_trans before above) below
  judged := leading.judged

section Memoryless

variable (memoryless : evaluator.oracle.Memoryless) (unlimited : evaluator.budget = none)
  {bound start timestep : Nat} {judgement : Except CheckError Judgement}
  {answer : Except CheckError Outcome}

include memoryless unlimited

theorem Judged.stop_le {stop : Nat} (judged : evaluator.Judged constraint timestep judgement)
    (halts : judgement ≠ .ok ⟨none, 1⟩) (cleared : evaluator.Cleared constraint start stop)
    (above : start ≤ timestep) : stop ≤ timestep := by
  by_contra below
  have quiet := cleared timestep above (Nat.lt_of_not_le below)
  exact halts (judged.unique memoryless unlimited quiet)

/-- The first timestep that is not cleared settles the answer. -/
theorem Surveyed.concludes (surveyed : evaluator.Surveyed constraint bound start answer)
    (within : timestep ≤ bound) (leading : evaluator.Leading constraint start timestep judgement)
    (halts : judgement ≠ .ok ⟨none, 1⟩) : Concludes start timestep judgement answer := by
  cases surveyed with
  | cleared quiet =>
      have beyond := leading.judged.stop_le memoryless unlimited halts quiet leading.start_le
      omega
  | ended _ last concludes =>
      have after := leading.judged.stop_le memoryless unlimited halts last.cleared leading.start_le
      have before := last.judged.stop_le memoryless unlimited concludes.ne_cleared leading.cleared
        last.start_le
      cases Nat.le_antisymm before after
      cases leading.judged.unique memoryless unlimited last.judged
      exact concludes

theorem splits_of_ended {part whole : Except CheckError Outcome}
    (surveyed : evaluator.Surveyed constraint bound start whole) (within : timestep ≤ bound)
    (leading : evaluator.Leading constraint start timestep judgement)
    (concludes : Concludes start timestep judgement part) (rest : Except CheckError Outcome) :
    Splits part whole rest := by
  have same := surveyed.concludes memoryless unlimited within leading concludes.ne_cleared
  cases concludes with
  | failed =>
      cases same
      exact .failed
  | found =>
      cases same
      exact .stopped leading.judged.verdict_ne ⟨rfl, rfl, rfl, rfl⟩ rfl

theorem splits_of_cleared {middle : Nat} {part : Outcome} {whole rest : Except CheckError Outcome}
    (verdict : part.verdict = .noErrorFound) (queries : part.queries = middle + 1 - start)
    (cleared : evaluator.Cleared constraint start (middle + 1)) (before : start ≤ middle)
    (after : middle < bound) (surveyed : evaluator.Surveyed constraint bound start whole)
    (remaining : evaluator.Surveyed constraint bound (middle + 1) rest) :
    Splits (.ok part) whole rest := by
  cases surveyed with
  | ended within leading concludes =>
      -- the whole window ends after its first part, so the rest of it ends at the same timestep
      have beyond := leading.judged.stop_le memoryless unlimited concludes.ne_cleared cleared
        leading.start_le
      have restarted := leading.restart (Nat.le_succ_of_le before) beyond
      have same := remaining.concludes memoryless unlimited within restarted concludes.ne_cleared
      cases concludes with
      | failed =>
          cases same
          exact .failedLater verdict
      | found =>
          cases same
          refine .continued verdict ⟨rfl, rfl, rfl, rfl⟩ ?_
          simp only [queries]
          omega
  | cleared quiet =>
      cases remaining with
      | ended within leading concludes =>
          have beyond := leading.judged.stop_le memoryless unlimited concludes.ne_cleared quiet
            (Nat.le_trans (Nat.le_succ_of_le before) leading.start_le)
          omega
      | cleared _ =>
          refine .continued verdict ⟨rfl, rfl, rfl, rfl⟩ ?_
          simp only [queries]
          omega

end Memoryless

theorem evaluate_splits (evaluator : Evaluator σ) (memoryless : evaluator.oracle.Memoryless)
    (unlimited : evaluator.budget = none) {start middle bound : Nat} (before : start ≤ middle)
    (after : middle < bound) (constraint : Option Formula) (first second third : Session σ) :
    Splits ((evaluator.evaluate middle start constraint).answer first)
      ((evaluator.evaluate bound start constraint).answer second)
      ((evaluator.evaluate bound (middle + 1) constraint).answer third) := by
  have part := evaluator.evaluate_surveyed before constraint first
  have whole := evaluator.evaluate_surveyed (Nat.le_of_lt (Nat.lt_of_le_of_lt before after))
    constraint second
  have rest := evaluator.evaluate_surveyed after constraint third
  generalize (evaluator.evaluate middle start constraint).answer first = answer at part ⊢
  cases part with
  | ended within leading concludes =>
      have inside := Nat.le_trans within (Nat.le_of_lt after)
      exact splits_of_ended memoryless unlimited whole inside leading concludes _
  | cleared quiet =>
      exact splits_of_cleared memoryless unlimited rfl rfl quiet before after whole rest

/-- Timestep 0 is cleared by one query, and the possible violation at timestep 1 takes two more. -/
theorem evaluate_splits_walk :
    ∃ part whole rest : Outcome,
      ((single Exhaustive.oracle .walk).evaluate 0 0 none).answer { oracle := {} } = .ok part ∧
      ((single Exhaustive.oracle .walk).evaluate 3 0 none).answer { oracle := {} } = .ok whole ∧
      ((single Exhaustive.oracle .walk).evaluate 3 1 none).answer { oracle := {} } = .ok rest ∧
      part.verdict = .noErrorFound ∧ whole.verdict = .unknown ∧ whole.Coincides rest ∧
      whole.queries = part.queries + rest.queries := by
  have cleared : (((single Exhaustive.oracle .walk).evaluate 0 0 none).answer
      { oracle := {} }).toOption.map Outcome.verdict = some .noErrorFound := by decide +kernel
  have found : (((single Exhaustive.oracle .walk).evaluate 3 0 none).answer
      { oracle := {} }).toOption.map Outcome.verdict = some .unknown := by decide +kernel
  have splits := evaluate_splits (single Exhaustive.oracle .walk) Exhaustive.oracle_memoryless rfl
    (Nat.le_refl 0) (Nat.zero_lt_succ 2) none { oracle := {} } { oracle := {} } { oracle := {} }
  generalize ((single Exhaustive.oracle .walk).evaluate 0 0 none).answer _ = part
    at cleared splits ⊢
  generalize ((single Exhaustive.oracle .walk).evaluate 3 0 none).answer _ = whole
    at found splits ⊢
  cases splits with
  | failed => cases cleared
  | stopped other => exact absurd (Option.some.inj cleared) other
  | continued verdict coincides queries =>
      exact ⟨_, _, _, rfl, rfl, rfl, verdict, Option.some.inj found, coincides, queries⟩

end Evaluator

end Trivalent
