import Mathlib.Algebra.BigOperators.Fin
import Mathlib.Data.List.Forall2
import Trivalent.Proofs.Checker.Coverage

/-!
What a refinement writes down. Whatever the oracles answer, the rounds of a finished refinement are
numbered, each one starts where the abstract model was left in the round before and is constrained by
the traces refuted before, and the last round settles the ending and the outcome
(`refine_chronicles`).
-/

set_option autoImplicit false

namespace Trivalent

variable {σ : Type}

namespace Round

/-- The abstract model's trace has this formula on the program. -/
def EncodedAs (program : Program) (round : Round) (formula : Formula) : Prop :=
  ∃ trace, round.abstract.trace = some trace ∧ trace.formula program = .ok formula

/-- The abstract model showed a possible violation and its replay did not confirm it. -/
def Refuted (round : Round) : Prop :=
  round.abstract.verdict = .unknown ∧ ∃ concrete, round.concrete = some concrete ∧
    (concrete.verdict = .unknown ∨ concrete.verdict = .noErrorFound)

/-- The ending that a last round leads to. -/
def ending (round : Round) : Ending :=
  match round.abstract.verdict, round.concrete.map Outcome.verdict with
  | .satisfiable, _ => .abstractDefinite
  | .noErrorFound, _ => .abstractDefinite
  | .inconclusive _, _ => .inconclusive
  | .unknown, some .satisfiable => .concreteConfirmed
  | .unknown, some (.inconclusive _) => .inconclusive
  | .unknown, _ => .roundsExhausted

theorem Refuted.ending_eq {round : Round} (refuted : round.Refuted) :
    round.ending = .roundsExhausted := by
  obtain ⟨unknown, concrete, replayed, verdict⟩ := refuted
  rcases verdict with again | nothing
  · simp [ending, unknown, replayed, again]
  · simp [ending, unknown, replayed, nothing]

/-- The constraint that the abstract model was checked under. -/
def imposed (round : Round) : Option Formula :=
  if round.excluded = 0 then none else some round.constraint

/-- The outcomes of the evaluations of a round. -/
def evaluations (round : Round) : List Outcome := round.abstract :: round.concrete.toList

theorem total_eq_sum (count : Outcome → Nat) (rounds : List Round) :
    total count rounds = ((rounds.flatMap evaluations).map count).sum := by
  induction rounds with
  | nil => rfl
  | cons round rest ih =>
      rw [total, ih, List.flatMap_cons, List.map_append, List.sum_append]
      congr 1
      cases replay : round.concrete <;> simp [sum, evaluations, replay]

end Round

namespace Checker

variable (checker : Checker σ)

/-- Rounds as a refinement writes them down one after the other. -/
structure Chained (rounds : List Round) : Prop where
  numbered : rounds.map Round.round = List.range rounds.length
  counted : rounds.map Round.excluded = List.range rounds.length
  /-- The first round starts where the settings say, and every other one at the timestep that the
  abstract model reached in the round before. -/
  starts : rounds.map Round.start =
    (checker.settings.startFrom.toNat ::
      rounds.map fun round => round.abstract.timestep).take rounds.length
  ascending : (rounds.map Round.start).Pairwise (· ≤ ·)
  bounded : ∀ round ∈ rounds, round.start ≤ checker.bound
  constrained : ∀ index round, rounds[index]? = some round →
    ∃ formulas,
      List.Forall₂ (Round.EncodedAs checker.concrete.program) (rounds.take index) formulas ∧
      round.constraint = Formula.conj (formulas.map Formula.negate)
  evaluated : ∀ round ∈ rounds,
    checker.abstract.Accounts round.imposed checker.bound round.start round.abstract
  replayed : ∀ round ∈ rounds, round.concrete.isSome ↔ round.abstract.verdict = .unknown

/-- What holds between two rounds. -/
structure Kept (progress : Progress) : Prop where
  chained : checker.Chained progress.rounds
  refuted : ∀ round ∈ progress.rounds, round.Refuted
  starts : progress.rounds.map Round.start ++ [progress.start] =
    checker.settings.startFrom.toNat :: progress.rounds.map fun round => round.abstract.timestep
  ascending : ∀ round ∈ progress.rounds, round.start ≤ progress.start
  bounded : progress.start ≤ checker.bound
  excluded : ∃ formulas,
    List.Forall₂ (Round.EncodedAs checker.concrete.program) progress.rounds formulas ∧
    progress.excluded = formulas.map Formula.negate

variable {checker}

theorem startFrom_le_bound (checker : Checker σ) :
    checker.settings.startFrom.toNat ≤ checker.bound := by
  have valid := checker.valid
  unfold Settings.validate at valid
  split at valid
  · cases valid
  · rename_i window
    exact UInt64.le_iff_toNat_le.mp (UInt64.not_lt.mp window)

theorem maxRefinements_pos (checker : Checker σ) :
    0 < checker.settings.maxRefinements.toNat := by
  have valid := checker.valid
  unfold Settings.validate at valid
  split at valid
  · cases valid
  · split at valid
    · cases valid
    · rename_i allowed
      apply Nat.pos_of_ne_zero
      intro zero
      exact allowed (UInt64.toNat_inj.mp zero)

namespace Kept

variable {progress : Progress} {abstract : Outcome} {concrete : Option Outcome}

theorem length_excluded (kept : checker.Kept progress) :
    progress.excluded.length = progress.rounds.length := by
  obtain ⟨formulas, encoded, excluded⟩ := kept.excluded
  rw [excluded, List.length_map, encoded.length_eq]

theorem imposed_round (progress : Progress) (abstract : Outcome) (concrete : Option Outcome) :
    (progress.round abstract concrete).imposed = progress.constraint := by
  unfold Round.imposed Progress.constraint
  simp only [Progress.round, List.length_eq_zero_iff, List.isEmpty_iff]

/-- One more round keeps the chain. -/
theorem chained_concat (kept : checker.Kept progress)
    (accounts : checker.abstract.Accounts progress.constraint checker.bound progress.start abstract)
    (replayed : concrete.isSome ↔ abstract.verdict = .unknown) :
    checker.Chained (progress.rounds ++ [progress.round abstract concrete]) where
  numbered := by
    rw [List.map_append, kept.chained.numbered, List.length_append, List.length_singleton,
      List.range_succ]
    rfl
  counted := by
    rw [List.map_append, kept.chained.counted, List.length_append, List.length_singleton,
      List.range_succ, ← kept.length_excluded]
    rfl
  starts := by
    have place : (progress.round abstract concrete).start = progress.start := rfl
    rw [List.map_append, List.map_singleton, place, kept.starts, List.length_append,
      List.length_singleton, List.take_succ_cons, List.map_append,
      List.take_left' (List.length_map _)]
  ascending := by
    rw [List.map_append, List.pairwise_append]
    refine ⟨kept.chained.ascending, List.pairwise_singleton _ _, ?_⟩
    intro earlier member later isLast
    obtain ⟨round, among, rfl⟩ := List.mem_map.mp member
    rw [List.map_singleton, List.mem_singleton] at isLast
    rw [isLast]
    exact kept.ascending round among
  bounded := by
    rw [List.forall_mem_append, List.forall_mem_singleton]
    exact ⟨kept.chained.bounded, kept.bounded⟩
  constrained := by
    intro index round found
    by_cases earlier : index < progress.rounds.length
    · rw [List.getElem?_append_left earlier] at found
      rw [List.take_append_of_le_length (Nat.le_of_lt earlier)]
      exact kept.chained.constrained index round found
    · have last : index = progress.rounds.length := by
        have within := (List.getElem?_eq_some_iff.mp found).1
        rw [List.length_append, List.length_singleton] at within
        omega
      rw [last, List.getElem?_concat_length] at found
      rw [last, List.take_left]
      obtain ⟨formulas, encoded, excluded⟩ := kept.excluded
      cases found
      exact ⟨formulas, encoded, congrArg Formula.conj excluded⟩
  evaluated := by
    rw [List.forall_mem_append, List.forall_mem_singleton, imposed_round]
    exact ⟨kept.chained.evaluated, accounts⟩
  replayed := by
    rw [List.forall_mem_append, List.forall_mem_singleton]
    exact ⟨kept.chained.replayed, replayed⟩

theorem refute (kept : checker.Kept progress) {formula : Formula} {outcome : Outcome}
    (replayed : checker.Replayed progress abstract formula outcome)
    (refuted : outcome.verdict = .unknown ∨ outcome.verdict = .noErrorFound) :
    checker.Kept (progress.refute abstract formula outcome) where
  chained := by
    apply kept.chained_concat replayed.shown
    exact ⟨fun _ => replayed.unknown, fun _ => rfl⟩
  refuted := by
    unfold Progress.refute
    rw [List.forall_mem_append, List.forall_mem_singleton]
    exact ⟨kept.refuted, replayed.unknown, outcome, rfl, refuted⟩
  starts := by
    have place : (progress.round abstract (some outcome)).start = progress.start := rfl
    simp only [Progress.refute, List.map_append, List.map_singleton, place, kept.starts,
      List.cons_append]
    rfl
  ascending := by
    unfold Progress.refute
    rw [List.forall_mem_append, List.forall_mem_singleton]
    refine ⟨?_, replayed.start_le⟩
    intro round member
    exact (kept.ascending round member).trans replayed.start_le
  bounded := replayed.shown.le_bound
  excluded := by
    obtain ⟨formulas, encoded, excluded⟩ := kept.excluded
    obtain ⟨trace, traced, made, _⟩ := replayed.trace
    refine ⟨formulas ++ [formula], ?_, ?_⟩
    · exact List.rel_append encoded (.cons ⟨trace, traced, made⟩ .nil)
    · rw [Progress.refute, excluded, List.map_append, List.map_singleton]

end Kept

theorem Reached.kept {progress : Progress} (reached : checker.Reached progress) :
    checker.Kept progress := by
  induction reached with
  | start =>
      refine ⟨⟨rfl, rfl, rfl, .nil, ?_, ?_, ?_, ?_⟩, ?_, rfl, ?_, checker.startFrom_le_bound,
        [], .nil, rfl⟩
      · intro round absent
        cases absent
      · intro index round absent
        cases absent
      all_goals
        intro round absent
        cases absent
  | refuted _ replayed refuted ih => exact ih.refute replayed refuted

variable (checker) in
/-- The last round settles how a refinement ends and what comes out of it. -/
structure Closed (outcome : Outcome) (refinement : Refinement) (before : List Round)
    (last : Round) : Prop where
  rounds : refinement.rounds = before ++ [last]
  refuted : ∀ round ∈ before, round.Refuted
  ending : refinement.ending = last.ending
  exhausted_iff : refinement.ending = .roundsExhausted ↔
    refinement.rounds.length = checker.settings.maxRefinements.toNat ∧ last.Refuted
  settled : refinement.ending ≠ .roundsExhausted → outcome = last.concrete.getD last.abstract
  exhausted : refinement.ending = .roundsExhausted →
    outcome = {
      verdict := .inconclusive
        s!"refinement budget of {checker.settings.maxRefinements.toNat} round(s) exhausted"
      timestep := last.abstract.timestep
      trace := none
      elapsed := ((refinement.rounds.flatMap Round.evaluations).map Outcome.elapsed).sum
      queries := ((refinement.rounds.flatMap Round.evaluations).map Outcome.queries).sum
      extensions := ((refinement.rounds.flatMap Round.evaluations).map Outcome.extensions).sum }

namespace Kept

variable {progress : Progress}

theorem closed_of_stop (kept : checker.Kept progress) (last : Round) {ending : Ending}
    (led : last.ending = ending) (stopped : ending ≠ .roundsExhausted) :
    checker.Closed (last.concrete.getD last.abstract) ⟨progress.rounds ++ [last], ending⟩
      progress.rounds last where
  rounds := rfl
  refuted := kept.refuted
  ending := led.symm
  exhausted_iff := by
    constructor
    · intro exhausted
      exact absurd exhausted stopped
    · rintro ⟨_, refuted⟩
      rw [← led]
      exact refuted.ending_eq
  settled _ := rfl
  exhausted exhausted := absurd exhausted stopped

theorem start_eq_of_concat (kept : checker.Kept progress) {before : List Round} {last : Round}
    (rounds : progress.rounds = before ++ [last]) : progress.start = last.abstract.timestep := by
  have ends := congrArg List.getLast? kept.starts
  rw [List.getLast?_concat, rounds, List.map_append, List.map_singleton, ← List.cons_append,
    List.getLast?_concat] at ends
  exact Option.some.inj ends

theorem closed_of_exhausted (kept : checker.Kept progress)
    (used : progress.rounds.length = checker.settings.maxRefinements.toNat) :
    ∃ before last,
      checker.Closed (Checker.exhausted checker.settings.maxRefinements.toNat progress)
        ⟨progress.rounds, .roundsExhausted⟩ before last := by
  rcases List.eq_nil_or_concat' progress.rounds with empty | ⟨before, last, rounds⟩
  · have positive := checker.maxRefinements_pos
    rw [← used, empty] at positive
    exact absurd positive (Nat.lt_irrefl 0)
  · have refuted := kept.refuted
    rw [rounds, List.forall_mem_append, List.forall_mem_singleton] at refuted
    refine ⟨before, last, rounds, refuted.1, refuted.2.ending_eq.symm, ?_, ?_, ?_⟩
    · exact ⟨fun _ => ⟨used, refuted.2⟩, fun _ => rfl⟩
    · intro contrary
      exact absurd rfl contrary
    · intro _
      simp only [Checker.exhausted, Round.total_eq_sum, kept.start_eq_of_concat rounds]

end Kept

theorem Concluded.chained {progress : Progress} {outcome : Outcome} {refinement : Refinement}
    (concluded : checker.Concluded progress outcome refinement) (kept : checker.Kept progress) :
    checker.Chained refinement.rounds := by
  cases concluded with
  | settled accounts verdict =>
      apply kept.chained_concat accounts
      rcases verdict with definite | definite <;> simp [definite]
  | unsettled accounts verdict =>
      apply kept.chained_concat accounts
      simp [verdict]
  | confirmed replayed _ =>
      apply kept.chained_concat replayed.shown
      simp [replayed.unknown]
  | stalled replayed _ =>
      apply kept.chained_concat replayed.shown
      simp [replayed.unknown]
  | exhausted _ => exact kept.chained

theorem Concluded.closed {progress : Progress} {outcome : Outcome} {refinement : Refinement}
    (concluded : checker.Concluded progress outcome refinement) (kept : checker.Kept progress) :
    ∃ before last, checker.Closed outcome refinement before last := by
  cases concluded with
  | settled _ verdict =>
      refine ⟨_, _, kept.closed_of_stop (progress.round outcome none) ?_ (by decide)⟩
      rcases verdict with definite | definite <;> simp [Round.ending, Progress.round, definite]
  | unsettled _ verdict =>
      refine ⟨_, _, kept.closed_of_stop (progress.round outcome none) ?_ (by decide)⟩
      simp [Round.ending, Progress.round, verdict]
  | @confirmed abstract _ _ replayed verdict =>
      refine ⟨_, _, kept.closed_of_stop (progress.round abstract (some outcome)) ?_ (by decide)⟩
      simp [Round.ending, Progress.round, replayed.unknown, verdict]
  | @stalled abstract _ _ _ replayed verdict =>
      refine ⟨_, _, kept.closed_of_stop (progress.round abstract (some outcome)) ?_ (by decide)⟩
      simp [Round.ending, Progress.round, replayed.unknown, verdict]
  | exhausted used => exact kept.closed_of_exhausted used

/-- Whatever the oracles answer, a refinement that returns has written down at least one round and no
more than allowed, chained from the first one on, and its last round settles the rest. -/
theorem refine_chronicles (checker : Checker σ) {outcome : Outcome} {refinement : Refinement}
    {session after : Session σ}
    (ran : checker.refine.run session = .ok (outcome, refinement) after) :
    1 ≤ refinement.rounds.length ∧
    refinement.rounds.length ≤ checker.settings.maxRefinements.toNat ∧
    checker.Chained refinement.rounds ∧
    ∃ before last, checker.Closed outcome refinement before last := by
  obtain ⟨progress, reached, concluded, within⟩ := refine_concluded_within ran
  have chained := concluded.chained reached.kept
  obtain ⟨before, last, closed⟩ := concluded.closed reached.kept
  refine ⟨?_, within, chained, before, last, closed⟩
  rw [closed.rounds, List.length_append, List.length_singleton]
  exact Nat.le_add_left 1 _

/-- Two rounds are not enough to refute both traces and to see that there are no more. -/
def hasty : Checker (Exhaustive × Exhaustive) :=
  { ofTasks .walk .adrift with settings := { bound := 1, maxRefinements := 2 }, valid := rfl }

theorem refine_chronicles_hasty :
    ∃ outcome refinement after,
      hasty.refine.run { oracle := ({}, {}) } = .ok (outcome, refinement) after ∧
      refinement.rounds.length = 2 ∧ refinement.ending = .roundsExhausted ∧ outcome.queries = 9 ∧
      hasty.Chained refinement.rounds ∧
      ∃ before last, hasty.Closed outcome refinement before last := by
  have viewed : (hasty.refine.run' { oracle := ({}, {}) }).map
      (fun ended => (ended.2.rounds.length, ended.2.ending, ended.1.queries)) =
        some (2, .roundsExhausted, 9) := by
    decide +kernel
  obtain ⟨⟨outcome, refinement⟩, after, ran, seen⟩ := EvalM.exists_run_of_run' viewed
  simp only [Prod.mk.injEq] at seen
  obtain ⟨count, ending, queries⟩ := seen
  obtain ⟨_, _, chained, closed⟩ := refine_chronicles hasty ran
  exact ⟨outcome, refinement, after, ran, count, ending, queries, chained, closed⟩

end Checker

end Trivalent
