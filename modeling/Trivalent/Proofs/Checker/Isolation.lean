import Trivalent.Proofs.Checker.Coverage
import Trivalent.Proofs.Evaluator.Agreement

/-!
Checks do not leak into one another. The oracle of a model is used again by every query, replay and
retest, and keeps its state when a check stops with an error. If a reset erases all of this history,
then two evaluations that find the oracle in different states cannot be told apart, and a checker that
is used again answers like a fresh one (`check_isolated`).
-/

set_option autoImplicit false

namespace Trivalent

variable {σ τ : Type}

/-! ### Oracles without a past -/

/-- A call to an oracle between two resets. -/
inductive Request where
  | assert (formula : Formula)
  | check
  | model

/-- What comes back from a request. -/
inductive Reaction where
  | asserted (answer : Except String Unit)
  | checked (answer : Except String SatResult)
  | offered (model : Option Model)

namespace Oracle

/-- The reactions to requests in a row. A request that fails does not end the row. -/
def react (oracle : Oracle σ) : List Request → σ → List Reaction
  | [], _ => []
  | .assert formula :: rest, state =>
      .asserted (oracle.assert formula state).answer ::
        oracle.react rest (oracle.assert formula state).state
  | .check :: rest, state =>
      .checked (oracle.check state).answer :: oracle.react rest (oracle.check state).state
  | .model :: rest, state => .offered (oracle.model state) :: oracle.react rest state

/-- A reset succeeds, and no row of requests after it tells from which state it was made. -/
structure ErasesHistory (oracle : Oracle σ) : Prop where
  resets : ∀ state, (oracle.reset state).answer = .ok ()
  forgets : ∀ (requests : List Request) (first second : σ),
    oracle.react requests (oracle.reset first).state =
      oracle.react requests (oracle.reset second).state

/-- No call takes time. -/
structure Still (oracle : Oracle σ) : Prop where
  reset : ∀ state, (oracle.reset state).took = 0
  assert : ∀ formula state, (oracle.assert formula state).took = 0
  check : ∀ state, (oracle.check state).took = 0

variable {oracle : Oracle σ}

theorem ErasesHistory.checkAll_eq (erases : oracle.ErasesHistory) (parts : List Formula)
    (first second : σ) :
    (oracle.checkAll parts first).answer = (oracle.checkAll parts second).answer ∧
      oracle.model (oracle.checkAll parts first).state =
        oracle.model (oracle.checkAll parts second).state := by
  -- a failed assertion leaves the model of its own state, so that row is compared as well
  have whole := erases.forgets [.assert (Formula.conj parts), .check, .model] first second
  have failing := erases.forgets [.assert (Formula.conj parts), .model] first second
  simp only [react, List.cons.injEq, Reaction.asserted.injEq, Reaction.checked.injEq,
    Reaction.offered.injEq, and_true] at whole failing
  obtain ⟨asserted, checked, offered⟩ := whole
  unfold checkAll Reply.andThen
  simp only [erases.resets, asserted]
  cases (oracle.assert (Formula.conj parts) (oracle.reset second).state).answer with
  | ok _ => exact ⟨checked, offered⟩
  | error message => exact ⟨rfl, failing.2⟩

theorem Still.checkAll (still : oracle.Still) (parts : List Formula) (state : σ) :
    (oracle.checkAll parts state).took = 0 := by
  unfold Oracle.checkAll Reply.andThen
  split
  · simp only [still.reset]
    split
    · simp only [still.assert, still.check]
    · simp only [still.assert]
  · exact still.reset state

theorem ErasesHistory.agrees (erases : oracle.ErasesHistory) (still : oracle.Still) :
    oracle.Agrees oracle fun _ _ => True where
  answer parts _ _ _ := (erases.checkAll_eq parts _ _).1
  took parts _ _ _ := by rw [still.checkAll, still.checkAll]
  model parts _ _ _ := (erases.checkAll_eq parts _ _).2
  related _ _ _ _ := trivial

theorem react_focus {get : τ → σ} {put : σ → τ → τ} (getPut : ∀ own whole, get (put own whole) = own)
    (requests : List Request) (whole : τ) :
    (oracle.focus get put).react requests whole = oracle.react requests (get whole) := by
  induction requests generalizing whole with
  | nil => rfl
  | cons request rest ih =>
      cases request with
      | assert formula =>
          rw [react, ih]
          simp only [focus, widen, getPut, react]
      | check =>
          rw [react, ih]
          simp only [focus, widen, getPut, react]
      | model =>
          rw [react, ih]
          rfl

theorem ErasesHistory.focus (erases : oracle.ErasesHistory) {get : τ → σ} {put : σ → τ → τ}
    (getPut : ∀ own whole, get (put own whole) = own) : (oracle.focus get put).ErasesHistory where
  resets whole := erases.resets (get whole)
  forgets requests first second := by
    rw [react_focus getPut, react_focus getPut]
    simp only [Oracle.focus, widen, getPut]
    exact erases.forgets requests (get first) (get second)

theorem Still.focus (still : oracle.Still) (get : τ → σ) (put : σ → τ → τ) :
    (oracle.focus get put).Still where
  reset whole := still.reset (get whole)
  assert formula whole := still.assert formula (get whole)
  check whole := still.check (get whole)

end Oracle

theorem Exhaustive.oracle_erasesHistory : oracle.ErasesHistory :=
  ⟨fun _ => rfl, fun _ _ _ => rfl⟩

theorem Exhaustive.oracle_still : oracle.Still where
  reset _ := rfl
  assert _ _ := rfl
  check table := by
    unfold oracle
    simp only
    cases firstRow (Formula.conj table.asserted) with
    | some mask => rfl
    | none => rfl

/-! ### Actions that can be repeated -/

namespace EvalM

/-- From both sessions the action comes to the same value or the same error, and writes the same
entries. -/
structure Repeats {α : Type} (action : EvalM σ α) (left right : Session σ) : Prop where
  answer : action.answer left = action.answer right
  journal : ∃ written, (action.final left).journal = left.journal ++ written ∧
    (action.final right).journal = right.journal ++ written

theorem Parallel.repeats {α : Type} {action : EvalM σ α} {left right : Session σ}
    {related : σ → σ → Prop}
    (parallel : Parallel left right related related Eq (action.run left) (action.run right)) :
    action.Repeats left right := by
  constructor
  · unfold answer
    generalize action.run left = result at parallel ⊢
    generalize action.run right = result' at parallel ⊢
    cases parallel with
    | ok same _ => rw [same]
    | error _ => rfl
  · unfold final
    generalize action.run left = result at parallel ⊢
    generalize action.run right = result' at parallel ⊢
    cases parallel with
    | ok _ beside => exact beside.journal
    | error beside => exact beside.journal

end EvalM

/-! ### Checks side by side -/

namespace Checker

open EvalM

variable {checker : Checker σ} {related : σ → σ → Prop} {origin origin' left right : Session σ}

/-- The part of a check before the retest. -/
def primary (checker : Checker σ) : EvalM σ (Outcome × Option Refinement) :=
  if checker.property.multiModel then do
    let ended ← checker.refine
    return (ended.1, some ended.2)
  else do
    let outcome ← checker.checkConcrete
    return (outcome, none)

/-- The retest, if one is asked for. -/
def secondary (checker : Checker σ) (outcome : Outcome) : EvalM σ (Option Outcome) :=
  if checker.property.doubleTest then checker.retest outcome else pure none

theorem check_eq (checker : Checker σ) :
    checker.check = (do
      let started ← now
      let ended ← checker.primary
      let again ← checker.secondary ended.1
      let time ← now
      return ⟨ended.1, ended.2, again, time - started⟩) := by
  unfold check primary secondary
  cases checker.property.multiModel <;> cases checker.property.doubleTest <;>
    simp only [Bool.false_eq_true, if_true, if_false, bind_assoc, pure_bind]

theorem traceFormula_parallel (outcome : Outcome)
    (beside : origin.Beside origin' related left right) :
    Parallel origin origin' related related Eq ((checker.traceFormula outcome).run left)
      ((checker.traceFormula outcome).run right) := by
  unfold traceFormula
  cases (outcome.trace.getD {}).formula checker.concrete.program with
  | ok formula => exact parallel_pure rfl beside
  | error source => exact parallel_throw _ _ beside

section Agreement

variable (agrees : ∀ model ∈ checker.models, model.oracle.Agrees model.oracle related)

include agrees

theorem evaluate_concrete_parallel (start : Nat) (constraint : Option Formula)
    (beside : origin.Beside origin' related left right) :
    Parallel origin origin' related related Eq
      ((checker.concrete.evaluate checker.bound start constraint).run left)
      ((checker.concrete.evaluate checker.bound start constraint).run right) :=
  Evaluator.evaluate_parallel (agrees _ (List.head_mem checker.nonempty)) checker.bound start
    constraint beside

theorem replay_parallel (number : Nat) (progress : Progress) (round : Round)
    (beside : origin.Beside origin' related left right) :
    Parallel origin origin' related related Eq ((checker.replay number progress round).run left)
      ((checker.replay number progress round).run right) := by
  refine (traceFormula_parallel round.abstract beside).bind_eq fun formula _ _ beside => ?_
  refine (parallel_record _ beside).bind_eq fun _ _ _ beside => ?_
  refine (evaluate_concrete_parallel agrees _ _ beside).bind_eq fun outcome _ _ beside => ?_
  cases outcome.verdict with
  | satisfiable =>
      exact (parallel_record _ beside).bind_eq fun _ _ _ beside => parallel_pure rfl beside
  | unknown =>
      exact (parallel_record _ beside).bind_eq fun _ _ _ beside => parallel_pure rfl beside
  | noErrorFound =>
      exact (parallel_record _ beside).bind_eq fun _ _ _ beside => parallel_pure rfl beside
  | inconclusive reason => exact parallel_pure rfl beside

theorem refineOnce_parallel (number : Nat) (progress : Progress)
    (beside : origin.Beside origin' related left right) :
    Parallel origin origin' related related Eq ((checker.refineOnce number progress).run left)
      ((checker.refineOnce number progress).run right) := by
  refine (parallel_record _ beside).bind_eq fun _ _ _ beside => ?_
  refine Parallel.bind_eq (Evaluator.evaluate_parallel
    (agrees _ (List.getLast_mem checker.nonempty)) _ _ _ beside) fun outcome _ _ beside => ?_
  cases outcome.verdict with
  | satisfiable => exact parallel_pure rfl beside
  | unknown => exact replay_parallel agrees number progress _ beside
  | noErrorFound => exact parallel_pure rfl beside
  | inconclusive reason => exact parallel_pure rfl beside

theorem refineFrom_parallel (count number : Nat) (progress : Progress)
    (beside : origin.Beside origin' related left right) :
    Parallel origin origin' related related Eq
      ((checker.refineFrom count number progress).run left)
      ((checker.refineFrom count number progress).run right) := by
  induction count generalizing number progress left right with
  | zero => exact (parallel_record _ beside).bind_eq fun _ _ _ beside => parallel_pure rfl beside
  | succ count ih =>
      refine (refineOnce_parallel agrees number progress beside).bind_eq fun step _ _ beside => ?_
      cases step with
      | stop outcome refinement => exact parallel_pure rfl beside
      | next progress => exact ih (number + 1) progress beside

theorem retest_parallel (outcome : Outcome) (beside : origin.Beside origin' related left right) :
    Parallel origin origin' related related Eq ((checker.retest outcome).run left)
      ((checker.retest outcome).run right) := by
  unfold retest
  split
  · refine (traceFormula_parallel outcome beside).bind_eq fun formula _ _ beside => ?_
    refine (parallel_record _ beside).bind_eq fun _ _ _ beside => ?_
    refine (evaluate_concrete_parallel agrees _ _ beside).bind_eq fun again _ _ beside => ?_
    split
    · exact parallel_pure rfl beside
    · exact (parallel_record _ beside).bind_eq fun _ _ _ beside => parallel_pure rfl beside
  · exact parallel_pure rfl beside

theorem primary_parallel (beside : origin.Beside origin' related left right) :
    Parallel origin origin' related related Eq (checker.primary.run left)
      (checker.primary.run right) := by
  unfold primary
  split
  · refine (refineFrom_parallel agrees _ 0 _ beside).bind_eq fun ended _ _ beside => ?_
    exact parallel_pure rfl beside
  · refine Parallel.bind_eq (evaluate_concrete_parallel agrees _ none beside) ?_
    intro outcome _ _ beside
    exact parallel_pure rfl beside

theorem secondary_parallel (outcome : Outcome)
    (beside : origin.Beside origin' related left right) :
    Parallel origin origin' related related Eq ((checker.secondary outcome).run left)
      ((checker.secondary outcome).run right) := by
  unfold secondary
  split
  · exact retest_parallel agrees outcome beside
  · exact parallel_pure rfl beside

theorem check_parallel (beside : origin.Beside origin' related left right) :
    Parallel origin origin' related related Eq (checker.check.run left)
      (checker.check.run right) := by
  rw [check_eq]
  refine (parallel_now beside).bind fun started started' _ _ begun beside => ?_
  refine (primary_parallel agrees beside).bind_eq fun ended _ _ beside => ?_
  refine (secondary_parallel agrees ended.1 beside).bind_eq fun again _ _ beside => ?_
  refine (parallel_now beside).bind fun time time' _ _ level beside => ?_
  rw [level.sub_eq begun]
  exact parallel_pure rfl beside

end Agreement

/-- An evaluation does not depend on the state in which it finds the oracle. A check that is run again,
after an answer or after an error, answers like one that starts afresh. -/
theorem check_isolated (σ : Type) :
    (∀ evaluator : Evaluator σ, evaluator.oracle.ErasesHistory → evaluator.oracle.Still →
      ∀ (bound start : Nat) (constraint : Option Formula) (left right : Session σ),
        (evaluator.evaluate bound start constraint).Repeats left right) ∧
    ∀ checker : Checker σ,
      (∀ model ∈ checker.models, model.oracle.ErasesHistory ∧ model.oracle.Still) →
      ∀ earlier fresh : Session σ,
        checker.check.Repeats (checker.check.final earlier) fresh := by
  constructor
  · intro evaluator erases still bound start constraint left right
    exact Parallel.repeats (Evaluator.evaluate_parallel (erases.agrees still) bound start constraint
      (Session.beside_self trivial))
  · intro checker lawful earlier fresh
    have agrees : ∀ model ∈ checker.models, model.oracle.Agrees model.oracle fun _ _ => True := by
      intro model member
      obtain ⟨erases, still⟩ := lawful model member
      exact erases.agrees still
    exact Parallel.repeats (check_parallel agrees (Session.beside_self trivial))

/-- Two models that are refined and retested. -/
def doubled (concrete abstract : Task) : Checker (Exhaustive × Exhaustive) :=
  { ofTasks concrete abstract with
    property := { multiModel := true, doubleTest := true }
    paired := fun _ => (ofTasks concrete abstract).paired rfl }

/-- A contradiction is left over among the assertions of the concrete model's oracle. -/
theorem check_isolated_doubled :
    ((Evaluator.single Exhaustive.oracle .walk).evaluate 3 0 none).Repeats
      { oracle := { asserted := [.const false] } } { oracle := {} } ∧
    (doubled .walk .adrift).check.Repeats
      ((doubled .walk .adrift).check.final
        { oracle := ({ asserted := [.const false] }, {}), now := 7 })
      { oracle := ({}, {}) } := by
  constructor
  · exact (check_isolated Exhaustive).1 _ Exhaustive.oracle_erasesHistory Exhaustive.oracle_still
      3 0 none _ _
  · refine (check_isolated (Exhaustive × Exhaustive)).2 (doubled .walk .adrift) ?_ _ _
    intro model member
    rcases List.mem_pair.mp member with rfl | rfl
    · exact ⟨Exhaustive.oracle_erasesHistory.focus fun _ _ => rfl, Exhaustive.oracle_still.focus _ _⟩
    · exact ⟨Exhaustive.oracle_erasesHistory.focus fun _ _ => rfl, Exhaustive.oracle_still.focus _ _⟩

end Checker

end Trivalent
