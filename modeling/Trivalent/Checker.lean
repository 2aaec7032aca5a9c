import Trivalent.Evaluator
import Trivalent.Refinement

/-!
Checking with one or more models. The first model is the concrete one and the last the abstract one.
Refinement checks the abstract model and replays every possible violation on the concrete model; a
trace that the concrete model does not confirm is excluded from the next round.
-/

set_option autoImplicit false

namespace Trivalent

/-- Models with a property and settings that fit together. -/
structure Checker (σ : Type) where
  models : List (Evaluator σ)
  property : Property
  settings : Settings
  nonempty : models ≠ []
  valid : settings.validate = .ok ()
  paired : property.multiModel = true → 2 ≤ models.length

/-- The result of a whole check. -/
structure CheckResult where
  outcome : Outcome
  refinement : Option Refinement
  retest : Option Outcome
  elapsed : Nanoseconds

namespace Checker

open EvalM

variable {σ : Type}

def make (models : List (Evaluator σ)) (property : Property) (settings : Settings) :
    Except CheckError (Checker σ) :=
  match valid : settings.validate with
  | .error error => .error error
  | .ok () =>
      if empty : models = [] then .error (.configuration .noModel)
      else if few : property.multiModel = true ∧ models.length < 2 then
        .error (.configuration (.tooFewModels models.length))
      else
        .ok { models, property, settings, nonempty := empty, valid
              paired := fun multi => Nat.le_of_not_lt fun short => few ⟨multi, short⟩ }

def concrete (checker : Checker σ) : Evaluator σ := checker.models.head checker.nonempty

def abstract (checker : Checker σ) : Evaluator σ := checker.models.getLast checker.nonempty

def bound (checker : Checker σ) : Nat := checker.settings.bound.toNat

/-- The formula of an outcome's trace on the concrete model. An outcome without a trace leaves
everything open. -/
def traceFormula (checker : Checker σ) (outcome : Outcome) : EvalM σ Formula :=
  match (outcome.trace.getD {}).formula checker.concrete.program with
  | .ok formula => pure formula
  | .error source => throw (.decode outcome.timestep source)

/-- Check the concrete model alone. -/
def checkConcrete (checker : Checker σ) : EvalM σ Outcome :=
  checker.concrete.evaluate checker.bound checker.settings.startFrom.toNat none

/-! ### Refinement -/

/-- How far a refinement has come: where the next round starts, the formulas that keep off refuted
traces, and the rounds so far. -/
structure Progress where
  start : Nat
  excluded : List Formula := []
  rounds : List Round := []

/-- The outcome of a refinement that has used up its rounds. -/
def exhausted (limit : Nat) (progress : Progress) : Outcome :=
  { verdict := .inconclusive s!"refinement budget of {limit} round(s) exhausted"
    timestep := progress.start
    elapsed := Round.total Outcome.elapsed progress.rounds
    queries := Round.total Outcome.queries progress.rounds
    extensions := Round.total Outcome.extensions progress.rounds }

/-- What a round leads to: the end, or another round. -/
inductive Step where
  | stop (outcome : Outcome) (refinement : Refinement)
  | next (progress : Progress)

/-- The end of a refinement with this round. -/
def stopWith (progress : Progress) (round : Round) (outcome : Outcome) (ending : Ending) : Step :=
  .stop outcome ⟨progress.rounds ++ [round], ending⟩

/-- Replay the abstract model's trace on the concrete model. -/
def replay (checker : Checker σ) (number : Nat) (progress : Progress) (round : Round) :
    EvalM σ Step := do
  let formula ← checker.traceFormula round.abstract
  note (.replay number round.abstract.timestep)
  let outcome ←
    checker.concrete.evaluate checker.bound round.abstract.timestep (some formula)
  let round := { round with concrete := some outcome }
  let refuted : EvalM σ Step := do
    note (.refuted number outcome.verdict)
    return .next {
      start := round.abstract.timestep
      excluded := progress.excluded ++ [formula.negate]
      rounds := progress.rounds ++ [round] }
  match outcome.verdict with
  | .satisfiable =>
      note (.confirmed number outcome.timestep)
      return stopWith progress round outcome .concreteConfirmed
  | .inconclusive _ => return stopWith progress round outcome .inconclusive
  | .unknown => refuted
  | .noErrorFound => refuted

/-- One round. A definite answer of the abstract model stands, and a possible violation is replayed. -/
def refineOnce (checker : Checker σ) (number : Nat) (progress : Progress) : EvalM σ Step := do
  let constraint := Formula.conj progress.excluded
  note (.abstractRound number progress.start progress.excluded.length)
  let outcome ← checker.abstract.evaluate checker.bound progress.start
    (if progress.excluded.isEmpty then none else some constraint)
  let round : Round :=
    { round := number
      start := progress.start
      constraint
      excluded := progress.excluded.length
      abstract := outcome
      concrete := none }
  match outcome.verdict with
  | .satisfiable => return stopWith progress round outcome .abstractDefinite
  | .noErrorFound => return stopWith progress round outcome .abstractDefinite
  | .inconclusive _ => return stopWith progress round outcome .inconclusive
  | .unknown => checker.replay number progress round

/-- The rounds from a number on, as many as are left. -/
def refineFrom (checker : Checker σ) : Nat → Nat → Progress → EvalM σ (Outcome × Refinement)
  | 0, _, progress => do
      let limit := checker.settings.maxRefinements.toNat
      note (.roundsExhausted limit)
      return (exhausted limit progress, ⟨progress.rounds, .roundsExhausted⟩)
  | left + 1, number, progress => do
      match ← checker.refineOnce number progress with
      | .stop outcome refinement => return (outcome, refinement)
      | .next progress => checker.refineFrom left (number + 1) progress

/-- Check the abstract model and refine until the answer is settled or the rounds are used up. -/
def refine (checker : Checker σ) : EvalM σ (Outcome × Refinement) :=
  checker.refineFrom checker.settings.maxRefinements.toNat 0
    { start := checker.settings.startFrom.toNat }

/-! ### The whole check -/

/-- Solve the concrete model once more under the trace of a violation, from its timestep on. Without a
violation there is nothing to solve. -/
def retest (checker : Checker σ) (outcome : Outcome) : EvalM σ (Option Outcome) := do
  if outcome.verdict = .satisfiable ∨ outcome.verdict = .unknown then
    let formula ← checker.traceFormula outcome
    note (.retest outcome.timestep)
    let again ← checker.concrete.evaluate checker.bound outcome.timestep (some formula)
    if again.verdict = outcome.verdict then return some again
    else
      note (.retestDiffers outcome.verdict again.verdict outcome.timestep)
      return some again
  else return none

/-- Check as the property asks: with or without refinement, and with a retest or not. -/
def check (checker : Checker σ) : EvalM σ CheckResult := do
  let started ← now
  let (outcome, refinement) ←
    if checker.property.multiModel then do
      let (outcome, refinement) ← checker.refine
      pure (outcome, some refinement)
    else do
      let outcome ← checker.checkConcrete
      pure (outcome, none)
  let retest ← if checker.property.doubleTest then checker.retest outcome else pure none
  return { outcome, refinement, retest, elapsed := (← now) - started }

end Checker

end Trivalent
