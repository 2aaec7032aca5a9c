import Mathlib.Algebra.BigOperators.Fin
import Mathlib.Data.Fintype.BigOperators
import Mathlib.Data.Fintype.List
import Trivalent.Proofs.Checker.Coverage
import Trivalent.Proofs.Evaluator.Realisation

/-!
Why refinement ends. Every round leaves the paths of the rounds before it
(`Replayed.apart_of_mem`), and within the bound there are only so many paths of locations
(`Program.card_path`). So the rounds with the verdict unknown are bounded, and with more rounds than
that allowed the limit is never reached.
-/

set_option autoImplicit false

namespace Trivalent

variable {σ : Type}

/-! ### Paths of locations -/

/-- A location for every process at every timestep up to the bound. -/
abbrev Program.Path (program : Program) (bound : Nat) : Type :=
  Fin (bound + 1) → (process : Fin program.processes.length) → Fin (2 ^ program.digits process)

theorem Program.card_path (program : Program) (bound : Nat) :
    Fintype.card (program.Path bound) =
      2 ^ ((bound + 1) * (program.processes.map Process.digits).sum) := by
  have digits : ∑ process : Fin program.processes.length, program.digits process =
      (program.processes.map Process.digits).sum := by
    rw [← Fin.sum_univ_fun_getElem]
    apply Finset.sum_congr rfl
    intro process _
    simp only [Program.digits, List.getElem?_eq_getElem process.isLt, Option.elim_some]
  simp only [Fintype.card_pi, Fintype.card_fin, Finset.prod_pow_eq_pow_sum, digits]
  rw [Finset.sum_const, Finset.card_univ, Fintype.card_fin, smul_eq_mul]

/-- The path of a trace. Where the trace says nothing it stays at location 0. -/
def Trace.path (trace : Trace) (program : Program) (bound : Nat) : program.Path bound :=
  fun timestep process => Fin.ofNat _ ((trace.locationAt timestep process).getD 0)

/-- The later round's trace does not extend the earlier one's: by the end of the earlier trace some
process is elsewhere. -/
def Round.Diverges (earlier later : Round) : Prop :=
  ∃ first second, earlier.abstract.trace = some first ∧ later.abstract.trace = some second ∧
    ∃ timestep ≤ earlier.abstract.timestep, ∃ process here there,
      first.locationAt timestep process = some here ∧
      second.locationAt timestep process = some there ∧ here ≠ there

namespace Checker

variable (checker : Checker σ)

def Drawn (round : Round) (model : Model) : Prop :=
  ∃ trace, round.abstract.trace = some trace ∧
    model.decode checker.abstract.program checker.abstract.property round.abstract.timestep =
      .ok trace

/-- The models behind two rounds put some process at different locations before the earlier trace
ends. -/
structure Apart (earlier later : Round) : Prop where
  ordered : earlier.abstract.timestep ≤ later.abstract.timestep
  bounded : later.abstract.timestep ≤ checker.bound
  elsewhere : ∃ first second, checker.Drawn earlier first ∧ checker.Drawn later second ∧
    ∃ timestep ≤ earlier.abstract.timestep, ∃ process < checker.abstract.program.processes.length,
      first.locationOf checker.abstract.program timestep process ≠
        second.locationOf checker.abstract.program timestep process

variable {checker}

theorem Apart.diverges {earlier later : Round} (apart : checker.Apart earlier later) :
    earlier.Diverges later := by
  obtain ⟨first, second, ⟨trace, traced, decoded⟩, ⟨laterTrace, laterTraced, laterDecoded⟩,
    timestep, within, process, known, different⟩ := apart.elsewhere
  refine ⟨trace, laterTrace, traced, laterTraced, timestep, within, process, _, _, ?_, ?_, different⟩
  · exact Model.locationAt_decoded decoded within known
  · exact Model.locationAt_decoded laterDecoded (within.trans apart.ordered) known

def roundPath (checker : Checker σ) (round : Round) :
    checker.abstract.program.Path checker.bound :=
  (round.abstract.trace.getD {}).path checker.abstract.program checker.bound

theorem Drawn.roundPath_eq {round : Round} {model : Model} (drawn : checker.Drawn round model)
    (timestep : Fin (checker.bound + 1))
    (process : Fin checker.abstract.program.processes.length)
    (within : timestep.val ≤ round.abstract.timestep) :
    checker.roundPath round timestep process =
      ⟨model.locationOf checker.abstract.program timestep process,
        model.locationOf_lt checker.abstract.program timestep process⟩ := by
  obtain ⟨trace, traced, decoded⟩ := drawn
  apply Fin.ext
  rw [roundPath, traced, Option.getD_some, Trace.path,
    Model.locationAt_decoded decoded within process.isLt, Option.getD_some, Fin.val_ofNat]
  exact Nat.mod_eq_of_lt (model.locationOf_lt checker.abstract.program timestep process)

theorem Apart.roundPath_ne {earlier later : Round} (apart : checker.Apart earlier later) :
    checker.roundPath earlier ≠ checker.roundPath later := by
  intro same
  obtain ⟨first, second, firstDrawn, secondDrawn, timestep, within, process, known, different⟩ :=
    apart.elsewhere
  have ordered := apart.ordered
  have bounded := apart.bounded
  have inBound : timestep < checker.bound + 1 := by omega
  have agree := congrFun (congrFun same ⟨timestep, inBound⟩) ⟨process, known⟩
  rw [firstDrawn.roundPath_eq _ _ within, secondDrawn.roundPath_eq _ _ (within.trans ordered)] at agree
  exact different (congrArg Fin.val agree)

theorem countP_le_of_pairwise_apart {rounds : List Round}
    (apart : rounds.Pairwise fun earlier later => earlier.abstract.verdict = .unknown →
      later.abstract.verdict = .unknown → checker.Apart earlier later) :
    rounds.countP (fun round => round.abstract.verdict = .unknown) ≤
      2 ^ ((checker.bound + 1) * (checker.abstract.program.processes.map Process.digits).sum) := by
  let unknown := rounds.filter fun round => round.abstract.verdict = .unknown
  have pairwise : unknown.Pairwise checker.Apart := by
    apply List.pairwise_filter.mpr
    apply apart.imp
    intro earlier later separate earlierUnknown laterUnknown
    exact separate (of_decide_eq_true earlierUnknown) (of_decide_eq_true laterUnknown)
  have distinct : (unknown.map checker.roundPath).Nodup :=
    pairwise.map checker.roundPath fun _ _ separate => separate.roundPath_ne
  have few := distinct.length_le_card
  rw [List.length_map, Program.card_path] at few
  rw [List.countP_eq_length_filter]
  exact few

/-! ### Rounds leave earlier paths -/

section Progress

variable (offers : checker.abstract.oracle.OffersModels)
  (sameDigits : ∀ process < checker.abstract.program.processes.length,
    checker.concrete.program.digits process = checker.abstract.program.digits process)
  {progress : Progress} {abstract : Outcome} {formula : Formula} {concrete : Outcome}

include offers in
/-- The model behind a round keeps off all paths excluded before. -/
theorem Replayed.exists_model (replayed : checker.Replayed progress abstract formula concrete) :
    ∃ (model : Model) (trace : Trace), abstract.trace = some trace ∧
      trace.formula checker.concrete.program = .ok formula ∧
      model.decode checker.abstract.program checker.abstract.property abstract.timestep =
        .ok trace ∧
      ∀ excluded ∈ progress.excluded, excluded.eval model.reading = true := by
  obtain ⟨trace, found, encoded, shown⟩ := replayed.trace
  obtain ⟨model, decoded, violates, _⟩ := shown.exists_model offers
  refine ⟨model, trace, found, encoded, decoded, ?_⟩
  exact Progress.holds_constraint_iff.mp violates.constraint

structure Recorded (checker : Checker σ) (progress : Progress) (round : Round) (model : Model)
    (trace : Trace) (formula : Formula) : Prop where
  unknown : round.abstract.verdict = .unknown
  traced : round.abstract.trace = some trace
  decoded : model.decode checker.abstract.program checker.abstract.property
    round.abstract.timestep = .ok trace
  encoded : trace.formula checker.concrete.program = .ok formula
  excluded : formula.negate ∈ progress.excluded
  ordered : round.abstract.timestep ≤ progress.start

include offers in
theorem Reached.recorded (reached : checker.Reached progress) :
    ∀ round ∈ progress.rounds, ∃ model trace formula,
      checker.Recorded progress round model trace formula := by
  induction reached with
  | start =>
      intro round absent
      cases absent
  | refuted _ replayed _ ih =>
      intro round member
      rcases List.mem_append.mp member with earlier | last
      · obtain ⟨model, trace, formula, recorded⟩ := ih round earlier
        refine ⟨model, trace, formula, recorded.unknown, recorded.traced, recorded.decoded,
          recorded.encoded, ?_, recorded.ordered.trans replayed.start_le⟩
        exact List.mem_append_left _ recorded.excluded
      · obtain ⟨model, trace, traced, encoded, decoded, _⟩ := replayed.exists_model offers
        rw [List.mem_singleton.mp last]
        refine ⟨model, trace, _, replayed.unknown, traced, decoded, encoded, ?_, Nat.le_refl _⟩
        exact List.mem_append_right _ (List.mem_singleton_self _)

include offers sameDigits

theorem Replayed.apart_of_mem (replayed : checker.Replayed progress abstract formula concrete)
    (reached : checker.Reached progress)
    {earlier : Round} (member : earlier ∈ progress.rounds) (replay : Option Outcome) :
    checker.Apart earlier (progress.round abstract replay) := by
  obtain ⟨first, trace, path, recorded⟩ := reached.recorded offers earlier member
  obtain ⟨second, laterTrace, laterTraced, _, laterDecoded, kept⟩ := replayed.exists_model offers
  have off : path.eval second.reading = false := by
    have negated := kept path.negate recorded.excluded
    rw [Formula.eval_negate, Bool.not_eq_true'] at negated
    exact negated
  refine ⟨recorded.ordered.trans replayed.start_le, replayed.shown.le_bound, first, second, ?_, ?_, ?_⟩
  · exact ⟨trace, recorded.traced, recorded.decoded⟩
  · exact ⟨laterTrace, laterTraced, laterDecoded⟩
  · exact Model.exists_locationOf_ne recorded.decoded recorded.encoded sameDigits off

theorem Reached.pairwise_apart (reached : checker.Reached progress) :
    progress.rounds.Pairwise checker.Apart := by
  induction reached with
  | start => exact List.Pairwise.nil
  | refuted earlier replayed _ ih =>
      apply List.pairwise_append.mpr
      refine ⟨ih, List.pairwise_singleton _ _, ?_⟩
      intro round member last isLast
      rw [List.mem_singleton.mp isLast]
      exact replayed.apart_of_mem offers sameDigits earlier member _

/-- The last round may have another verdict, and is then not compared. -/
theorem Concluded.pairwise_apart {outcome : Outcome} {refinement : Refinement}
    (concluded : checker.Concluded progress outcome refinement)
    (reached : checker.Reached progress) :
    refinement.rounds.Pairwise fun earlier later => earlier.abstract.verdict = .unknown →
      later.abstract.verdict = .unknown → checker.Apart earlier later := by
  have before : progress.rounds.Pairwise fun earlier later => earlier.abstract.verdict = .unknown →
      later.abstract.verdict = .unknown → checker.Apart earlier later := by
    apply (reached.pairwise_apart offers sameDigits).imp
    intro earlier later apart _ _
    exact apart
  have extend : ∀ last : Round,
      (last.abstract.verdict = .unknown → ∀ round ∈ progress.rounds, checker.Apart round last) →
      (progress.rounds ++ [last]).Pairwise fun earlier later =>
        earlier.abstract.verdict = .unknown → later.abstract.verdict = .unknown →
          checker.Apart earlier later := by
    intro last apart
    apply List.pairwise_append.mpr
    refine ⟨before, List.pairwise_singleton _ _, ?_⟩
    intro round member other isLast _ unknown
    rw [List.mem_singleton.mp isLast] at unknown ⊢
    exact apart unknown round member
  cases concluded with
  | settled _ verdict =>
      apply extend
      intro unknown
      rcases verdict with contrary | contrary
      · cases contrary.symm.trans unknown
      · cases contrary.symm.trans unknown
  | unsettled _ contrary =>
      apply extend
      intro unknown
      cases contrary.symm.trans unknown
  | confirmed replayed _ =>
      apply extend
      intro _ round member
      exact replayed.apart_of_mem offers sameDigits reached member _
  | stalled replayed _ =>
      apply extend
      intro _ round member
      exact replayed.apart_of_mem offers sameDigits reached member _
  | exhausted _ => exact before

end Progress

/-- Refinement makes progress: no trace of a round extends that of an earlier one. So there are at
most as many rounds with the verdict unknown as paths of locations, and a refinement with a higher
limit does not use it up. -/
theorem refine_progresses (checker : Checker σ) (offers : checker.abstract.oracle.OffersModels)
    (sameDigits : ∀ process < checker.abstract.program.processes.length,
      checker.concrete.program.digits process = checker.abstract.program.digits process)
    {outcome : Outcome} {refinement : Refinement} {session after : Session σ}
    (ran : checker.refine.run session = .ok (outcome, refinement) after) :
    (refinement.rounds.Pairwise fun earlier later => earlier.abstract.verdict = .unknown →
      later.abstract.verdict = .unknown → earlier.Diverges later) ∧
    refinement.rounds.countP (fun round => round.abstract.verdict = .unknown) ≤
      2 ^ ((checker.bound + 1) * (checker.abstract.program.processes.map Process.digits).sum) ∧
    (2 ^ ((checker.bound + 1) * (checker.abstract.program.processes.map Process.digits).sum) <
      checker.settings.maxRefinements.toNat → refinement.ending ≠ .roundsExhausted) := by
  obtain ⟨last, reached, concluded⟩ := refine_concluded ran
  have apart := concluded.pairwise_apart offers sameDigits reached
  have few := countP_le_of_pairwise_apart apart
  refine ⟨?_, few, ?_⟩
  · apply apart.imp
    intro earlier later separate earlierUnknown laterUnknown
    exact (separate earlierUnknown laterUnknown).diverges
  · intro above exhausted
    cases concluded with
    | exhausted used =>
        have all : last.rounds.countP (fun round => round.abstract.verdict = .unknown) =
            last.rounds.length := by
          apply List.countP_eq_length.mpr
          intro round member
          obtain ⟨_, _, _, recorded⟩ := reached.recorded offers round member
          exact decide_eq_true recorded.unknown
        have tooFew : checker.settings.maxRefinements.toNat ≤
            2 ^ ((checker.bound + 1) *
              (checker.abstract.program.processes.map Process.digits).sum) := by
          rw [← used, ← all]
          exact few
        exact absurd above (Nat.not_lt_of_le tooFew)
    | settled _ _ => cases exhausted
    | unsettled _ _ => cases exhausted
    | confirmed _ _ => cases exhausted
    | stalled _ _ => cases exhausted

theorem refine_progresses_walk :
    ∃ outcome refinement after,
      (ofTasks .walk .adrift).refine.run { oracle := ({}, {}) } = .ok (outcome, refinement) after ∧
      refinement.rounds.countP (fun round => round.abstract.verdict = .unknown) = 2 ∧
      (refinement.rounds.Pairwise fun earlier later => earlier.abstract.verdict = .unknown →
        later.abstract.verdict = .unknown → earlier.Diverges later) ∧
      refinement.rounds.countP (fun round => round.abstract.verdict = .unknown) ≤ 2 ^ ((1 + 1) * 1) ∧
      refinement.ending ≠ .roundsExhausted := by
  have viewed : ((ofTasks .walk .adrift).refine.run' { oracle := ({}, {}) }).map
      (fun ended => ended.2.rounds.countP fun round => round.abstract.verdict = .unknown) =
        some 2 := by
    decide +kernel
  obtain ⟨⟨outcome, refinement⟩, after, ran, count⟩ := EvalM.exists_run_of_run' viewed
  obtain ⟨apart, few, ends⟩ := refine_progresses (ofTasks .walk .adrift)
    (ofTasks_abstract_correct .walk .adrift).offersModels (fun _ _ => rfl) ran
  exact ⟨outcome, refinement, after, ran, count, apart, few, ends (by decide +kernel)⟩

end Checker

end Trivalent
