import Trivalent.Proofs.Checker.Termination

/-!
What a confirmed violation is worth. It is a violation of the concrete model along a path that starts
with the abstract model's path. It need not be the first violation of all: a replay goes on to the
bound along its one path, and a path left open with the verdict unknown is not looked at again.
-/

set_option autoImplicit false

namespace Trivalent

variable {σ : Type}

/-- The assignment follows the path that the round showed. -/
def Round.FollowedBy (round : Round) (program : Program) (assignment : Assignment) : Prop :=
  ∃ trace formula, round.abstract.trace = some trace ∧ trace.formula program = .ok formula ∧
    formula.eval assignment = true

namespace Round

variable {round : Round} {program : Program} {assignment : Assignment}

theorem followedBy_iff {trace : Trace} {formula : Formula}
    (traced : round.abstract.trace = some trace) (encoded : trace.formula program = .ok formula) :
    round.FollowedBy program assignment ↔ formula.eval assignment = true := by
  constructor
  · rintro ⟨other, otherFormula, otherTraced, otherEncoded, follows⟩
    rw [traced] at otherTraced
    cases otherTraced
    rw [encoded] at otherEncoded
    cases otherEncoded
    exact follows
  · intro follows
    exact ⟨trace, formula, traced, encoded, follows⟩

instance (round : Round) (program : Program) (assignment : Assignment) :
    Decidable (round.FollowedBy program assignment) :=
  match traced : round.abstract.trace with
  | none => .isFalse (by
      rintro ⟨_, _, found, _⟩
      rw [traced] at found
      cases found)
  | some trace =>
      match encoded : trace.formula program with
      | .error _ => .isFalse (by
          rintro ⟨_, _, found, made, _⟩
          rw [traced] at found
          cases found
          rw [encoded] at made
          cases made)
      | .ok _ => decidable_of_iff _ (followedBy_iff traced encoded).symm

theorem FollowedBy.congr {other : Assignment} (followed : round.FollowedBy program assignment)
    (same : assignment.SameLocations other) : round.FollowedBy program other := by
  obtain ⟨trace, formula, traced, encoded, follows⟩ := followed
  have onLocations : formula.OnLocations := fun name => Trace.mem_names_formula encoded
  rw [onLocations.eval_eq same] at follows
  exact ⟨trace, formula, traced, encoded, follows⟩

end Round

namespace Checker

variable {checker : Checker σ}

theorem Reached.startFrom_le {progress : Progress} (reached : checker.Reached progress) :
    checker.settings.startFrom.toNat ≤ progress.start := by
  induction reached with
  | start => exact Nat.le_refl _
  | refuted _ replayed _ ih => exact ih.trans replayed.start_le

/-- A confirmed violation comes out of the replay of the last round. -/
theorem exists_replayed_of_confirmed {outcome : Outcome} {refinement : Refinement}
    {session after : Session σ}
    (ran : checker.refine.run session = .ok (outcome, refinement) after)
    (confirmed : refinement.ending = .concreteConfirmed) :
    ∃ progress abstract formula, checker.Reached progress ∧
      checker.Replayed progress abstract formula outcome ∧ outcome.verdict = .satisfiable ∧
      refinement.rounds = progress.rounds ++ [progress.round abstract (some outcome)] := by
  obtain ⟨progress, reached, concluded⟩ := refine_concluded ran
  cases concluded with
  | confirmed replayed satisfiable => exact ⟨progress, _, _, reached, replayed, satisfiable, rfl⟩
  | settled _ _ => cases confirmed
  | unsettled _ _ => cases confirmed
  | stalled _ _ => cases confirmed
  | exhausted _ => cases confirmed

/-- The model behind a confirmed violation. -/
theorem Replayed.exists_confirming {progress : Progress} {abstract : Outcome} {formula : Formula}
    {concrete : Outcome} (replayed : checker.Replayed progress abstract formula concrete)
    (satisfiable : concrete.verdict = .satisfiable)
    (offers : checker.concrete.oracle.OffersModels) :
    ∃ (model : Model) (path : Trace), concrete.trace = some path ∧
      model.decode checker.concrete.program checker.concrete.property concrete.timestep =
        .ok path ∧
      checker.concrete.task.Violates none concrete.timestep model.reading ∧
      model.reading.status = false ∧ formula.eval model.reading = true := by
  obtain ⟨path, traced, shown⟩ := replayed.replayed.shown_of_verdict .definite satisfiable
  obtain ⟨model, decoded, violates, status⟩ := shown.exists_model offers
  obtain ⟨free, follows⟩ := Task.violates_some_iff.mp violates
  exact ⟨model, path, traced, decoded, free, status, follows⟩

/-- A confirmed violation is one of the concrete model, and its path goes on where the last abstract
path ends. -/
theorem refine_confirms_genuine (checker : Checker σ)
    (offers : checker.concrete.oracle.OffersModels)
    (sameDigits : ∀ process < checker.abstract.program.processes.length,
      checker.concrete.program.digits process = checker.abstract.program.digits process)
    {outcome : Outcome} {refinement : Refinement} {session after : Session σ}
    (ran : checker.refine.run session = .ok (outcome, refinement) after)
    (confirmed : refinement.ending = .concreteConfirmed) :
    ∃ last, refinement.rounds.getLast? = some last ∧
      last.abstract.timestep ≤ outcome.timestep ∧ outcome.timestep ≤ checker.bound ∧
      ∃ abstractPath path, last.abstract.trace = some abstractPath ∧ outcome.trace = some path ∧
        path.states.length = outcome.timestep + 1 ∧
        (∀ timestep ≤ last.abstract.timestep,
          ∀ process < checker.abstract.program.processes.length,
            ∃ location, abstractPath.locationAt timestep process = some location ∧
              path.locationAt timestep process = some location) ∧
        ∃ (formula : Formula) (assignment : Assignment),
          path.formula checker.concrete.program = .ok formula ∧
          checker.concrete.task.Violates none outcome.timestep assignment ∧
          assignment.status = false ∧ formula.eval assignment = true := by
  obtain ⟨progress, abstract, formula, _, replayed, satisfiable, rounds⟩ :=
    exists_replayed_of_confirmed ran confirmed
  obtain ⟨abstractPath, abstractTraced, encoded, _, first, _, _, firstDecoded⟩ := replayed.trace
  obtain ⟨second, path, traced, decoded, violates, definite, follows⟩ :=
    replayed.exists_confirming satisfiable offers
  have later := replayed.replayed.start_le replayed.shown.le_bound
  refine ⟨progress.round abstract (some outcome), ?_, later, replayed.replayed.le_bound,
    abstractPath, path, abstractTraced, traced, ?_, ?_, ?_⟩
  · rw [rounds, List.getLast?_concat]
  · exact (Model.follows_of_decode decoded).length_states
  · intro timestep within process known
    -- the abstract trace was read with one program and encoded with the other
    have inConcrete := (Model.follows_of_decode firstDecoded).lt_of_formula encoded known
    have same := (Model.eval_formula_iff_locationOf_eq firstDecoded encoded sameDigits).mp follows
      timestep within process known
    refine ⟨_, Model.locationAt_decoded firstDecoded within known, ?_⟩
    rw [Model.locationAt_decoded decoded (within.trans later) inConcrete,
      Model.locationOf_congr (sameDigits process known), same]
  · obtain ⟨pathFormula, pathEncoded, holds⟩ := Model.exists_formula_of_decode decoded
    exact ⟨pathFormula, second.reading, pathEncoded, violates, definite, holds⟩

end Checker

/-! ### A violation confirmed late -/

/-- One process goes anywhere. Starting at location 1 it may violate the property at once and violates
it at timestep 1; at timestep 2 location 0 violates it, and later on any location does. -/
def Task.forked : Task where
  initial := .const true
  transition _ := .const true
  violation
    | 0 => Formula.conj [Location.encode 0 0 1 1, Atom.status.formula true]
    | 1 => Location.encode 0 0 1 1
    | 2 => Location.encode 2 0 0 1
    | _ => .const true

/-- The same process seen from afar. Before timestep 2 it may violate the property if it started at
location 1, and later in any case. -/
def Task.blurred : Task where
  initial := .const true
  transition _ := .const true
  violation timestep :=
    if timestep < 2 then Formula.conj [Location.encode 0 0 1 1, Atom.status.formula true]
    else Atom.status.formula true

namespace Task

theorem forked_violates_iff {timestep : Nat} {assignment : Assignment} :
    forked.Violates none timestep assignment ↔
      (timestep < 2 → assignment.read (Atom.location 0 0 0).name = true) ∧
        (timestep = 0 → assignment.status = true) ∧
        (timestep = 2 → assignment.read (Atom.location 2 0 0).name = false) := by
  rw [violates_none_iff]
  match timestep with
  | 0 => simp [forked, Formula.eval_conj_iff, Location.eval_encode_digit, Atom.formula, Formula.eval,
      Literal.holds_iff, Atom.literal, Assignment.status]
  | 1 => simp [forked, Location.eval_encode_digit, Formula.eval]
  | 2 => simp [forked, Location.eval_encode_digit, Formula.eval]
  | later + 3 => simp [forked, Formula.eval]

theorem blurred_violates_iff {timestep : Nat} {assignment : Assignment} :
    blurred.Violates none timestep assignment ↔
      (timestep < 2 → assignment.read (Atom.location 0 0 0).name = true) ∧
        assignment.status = true := by
  rw [violates_none_iff]
  by_cases early : timestep < 2
  · simp only [blurred, early, if_true, forall_const, Formula.eval_conj_iff, List.forall_mem_cons,
      List.not_mem_nil, false_implies, implies_true, and_true, true_and, Location.eval_encode_digit,
      Nat.testBit_one_zero, Atom.formula, Formula.eval, Literal.holds_iff, Atom.literal,
      Assignment.status]
  · simp only [blurred, early, if_false, false_implies, implies_true, true_and, Atom.formula,
      Formula.eval, Literal.holds_iff, Atom.literal, Assignment.status]

theorem forked_monotone : forked.Monotone := by
  intro timestep assignment violates _
  have same := assignment.sameLocations_update_status (some true)
  rw [forked_violates_iff] at violates ⊢
  rw [same 0 0 0, same 2 0 0]
  exact ⟨violates.1, fun _ => assignment.status_update true, violates.2.2⟩

theorem blurred_monotone : blurred.Monotone := by
  intro timestep assignment violates definite
  rw [(blurred_violates_iff.mp violates).2] at definite
  cases definite

theorem blurred_overapproximates_forked : blurred.Overapproximates forked := by
  intro timestep assignment violates possible
  refine ⟨assignment, fun _ _ _ => rfl, blurred_violates_iff.mpr ?_, possible⟩
  exact ⟨(forked_violates_iff.mp violates).1, possible⟩

end Task

/-- The process starts at location 1 and goes to location 0. -/
def Assignment.turning : Assignment := fun name => some (name = (Atom.location 0 0 0).name)

theorem Task.forked_violates_turning : forked.Violates none 1 .turning := by
  rw [forked_violates_iff]
  decide +kernel

theorem Task.forked_violates_staying : forked.Violates none 2 .staying := by
  rw [forked_violates_iff]
  decide +kernel

namespace Checker

def ofFork : Checker (Exhaustive × Exhaustive) :=
  { ofTasks .forked .blurred with
    settings := { bound := 3 }
    valid := rfl }

theorem ofFork_concrete_correct : ofFork.concrete.oracle.Correct :=
  ofTasks_concrete_correct .forked .blurred

theorem ofFork_abstract_correct : ofFork.abstract.oracle.Correct :=
  ofTasks_abstract_correct .forked .blurred

/-- The first round leaves the start at location 1 open. The second shows a path to location 1 at
timestep 2, and its replay is confirmed at timestep 3. No round has a path that stays at location 0. -/
theorem ofFork_confirmed :
    ∃ outcome refinement after last,
      ofFork.refine.run { oracle := ({}, {}) } = .ok (outcome, refinement) after ∧
      refinement.ending = .concreteConfirmed ∧ outcome.timestep = 3 ∧
      refinement.rounds.getLast? = some last ∧ last.abstract.timestep = 2 ∧
      ∀ round ∈ refinement.rounds, ¬round.FollowedBy ofFork.concrete.program .staying := by
  have viewed : (ofFork.refine.run' { oracle := ({}, {}) }).map
      (fun ended => (ended.2.ending, ended.1.timestep,
        ended.2.rounds.getLast?.map fun last => last.abstract.timestep,
        decide (∀ round ∈ ended.2.rounds, ¬round.FollowedBy ofFork.concrete.program .staying))) =
          some (.concreteConfirmed, 3, some 2, true) := by
    decide +kernel
  obtain ⟨⟨outcome, refinement⟩, after, ran, seen⟩ := EvalM.exists_run_of_run' viewed
  simp only [Prod.mk.injEq] at seen
  obtain ⟨confirmed, place, found, apart⟩ := seen
  obtain ⟨last, isLast, shown⟩ := Option.map_eq_some_iff.mp found
  exact ⟨outcome, refinement, after, last, ran, confirmed, place, isLast, shown,
    of_decide_eq_true apart⟩

theorem refine_confirms_genuine_fork :
    ∃ outcome refinement after last,
      ofFork.refine.run { oracle := ({}, {}) } = .ok (outcome, refinement) after ∧
      refinement.rounds.getLast? = some last ∧ last.abstract.timestep = 2 ∧ outcome.timestep = 3 ∧
      ∃ abstractPath path, last.abstract.trace = some abstractPath ∧ outcome.trace = some path ∧
        path.states.length = outcome.timestep + 1 ∧
        (∀ timestep ≤ last.abstract.timestep, ∀ process < 1,
          ∃ location, abstractPath.locationAt timestep process = some location ∧
            path.locationAt timestep process = some location) ∧
        ∃ (formula : Formula) (assignment : Assignment),
          path.formula ofFork.concrete.program = .ok formula ∧
          Task.forked.Violates none outcome.timestep assignment ∧
          assignment.status = false ∧ formula.eval assignment = true := by
  obtain ⟨outcome, refinement, after, last, ran, confirmed, place, isLast, shown, _⟩ :=
    ofFork_confirmed
  obtain ⟨round, isRound, _, _, genuine⟩ := refine_confirms_genuine ofFork
    ofFork_concrete_correct.offersModels (fun _ _ => rfl) ran confirmed
  rw [isLast] at isRound
  cases isRound
  exact ⟨outcome, refinement, after, last, ran, isLast, shown, place, genuine⟩

end Checker

/-! ### Violations passed over -/

namespace Checker

variable {checker : Checker σ}

theorem Reached.not_followedBy {progress : Progress} {assignment : Assignment}
    (reached : checker.Reached progress) (offers : checker.abstract.oracle.OffersModels)
    (kept : ∀ excluded ∈ progress.excluded, excluded.eval assignment = true) :
    ∀ round ∈ progress.rounds, ¬round.FollowedBy checker.concrete.program assignment := by
  intro round member followed
  obtain ⟨_, trace, formula, recorded⟩ := reached.recorded offers round member
  have off := kept formula.negate recorded.excluded
  rw [Formula.eval_negate, (Round.followedBy_iff recorded.traced recorded.encoded).mp followed] at off
  cases off

theorem LeftOpen.followedBy {assignment : Assignment} {round : Round} {concrete : Outcome}
    {trace : Trace} {formula : Formula}
    (leftOpen : checker.LeftOpen assignment round concrete trace formula) :
    round.FollowedBy checker.concrete.program assignment :=
  ⟨trace, formula, leftOpen.path, leftOpen.encoded, leftOpen.follows⟩

/-- Nothing follows the paths of two rounds that are apart. -/
theorem Apart.not_followedBy {earlier later : Round} (apart : checker.Apart earlier later)
    (sameDigits : ∀ process < checker.abstract.program.processes.length,
      checker.concrete.program.digits process = checker.abstract.program.digits process)
    {assignment : Assignment} (followed : earlier.FollowedBy checker.concrete.program assignment) :
    ¬later.FollowedBy checker.concrete.program assignment := by
  intro laterFollowed
  obtain ⟨first, second, ⟨trace, traced, decoded⟩, ⟨laterTrace, laterTraced, laterDecoded⟩,
    timestep, within, process, known, different⟩ := apart.elsewhere
  obtain ⟨_, formula, found, encoded, holds⟩ := followed
  rw [traced] at found
  cases found
  obtain ⟨_, laterFormula, laterFound, laterEncoded, laterHolds⟩ := laterFollowed
  rw [laterTraced] at laterFound
  cases laterFound
  exact different (Model.locationOf_eq_of_eval decoded laterDecoded encoded laterEncoded sameDigits
    holds laterHolds within (within.trans apart.ordered) known)

/-- The two ways in which a definite violation before a confirmed one is passed over. -/
theorem Replayed.passes_over {progress : Progress} {abstract : Outcome} {formula : Formula}
    {concrete : Outcome} (replayed : checker.Replayed progress abstract formula concrete)
    (reached : checker.Reached progress) (concreteSound : checker.concrete.oracle.Sound)
    (abstractCorrect : checker.abstract.oracle.Correct)
    (monotone : checker.concrete.task.Monotone)
    (covering : checker.abstract.task.Overapproximates checker.concrete.task)
    {timestep : Nat} {assignment : Assignment}
    (above : checker.settings.startFrom.toNat ≤ timestep) (before : timestep < concrete.timestep)
    (violates : checker.concrete.task.Violates none timestep assignment)
    (definite : assignment.status = false) :
    (∃ round ∈ progress.rounds, ∃ stopped trace path,
      checker.LeftOpen assignment round stopped trace path ∧ stopped.timestep < timestep) ∨
    abstract.timestep ≤ timestep ∧
      ∀ round ∈ progress.rounds ++ [progress.round abstract (some concrete)],
        ¬round.FollowedBy checker.concrete.program assignment := by
  -- the rounds are watched along the same path with the status variable true
  have possibly := monotone timestep assignment violates definite
  have possible := assignment.status_update true
  have below : timestep ≤ checker.bound := before.le.trans replayed.replayed.le_bound
  rcases reached.open_or_kept concreteSound abstractCorrect.sound covering possibly
    possible above below with openBy | ⟨ahead, kept⟩
  · exact Or.inl (openBy.before_definite concreteSound violates definite)
  · have notLater := replayed.timestep_le_of_kept abstractCorrect.sound covering possibly possible
      reached ahead kept
    refine Or.inr ⟨notLater, ?_⟩
    intro round member followed
    have possiblyFollowed := followed.congr fun timestep process digit =>
      (assignment.sameLocations_update_status (some true) timestep process digit).symm
    rcases List.mem_append.mp member with earlier | last
    · exact reached.not_followedBy abstractCorrect.offersModels kept round earlier possiblyFollowed
    · obtain ⟨_, traced, encoded, _⟩ := replayed.trace
      rw [List.mem_singleton.mp last] at possiblyFollowed
      have stopped := replayed.concrete_timestep_le concreteSound possibly possible notLater
        ((Round.followedBy_iff traced encoded).mp possiblyFollowed)
      omega

/-- A confirmed violation is definite and lies on the path of the last round. A definite violation
before it was passed over in one of two ways: an earlier round replayed its path and stopped with the
verdict unknown before it, or no round replayed its path, and it does not come before the last
abstract path ends. With as many digits in both models it is never on the path of the last round, so
the confirmed violation is the first one there. -/
theorem refine_passes_over (checker : Checker σ)
    (concreteCorrect : checker.concrete.oracle.Correct)
    (abstractCorrect : checker.abstract.oracle.Correct)
    (monotone : checker.concrete.task.Monotone)
    (covering : checker.abstract.task.Overapproximates checker.concrete.task)
    {outcome : Outcome} {refinement : Refinement} {session after : Session σ}
    (ran : checker.refine.run session = .ok (outcome, refinement) after)
    (confirmed : refinement.ending = .concreteConfirmed) :
    checker.settings.startFrom.toNat ≤ outcome.timestep ∧ outcome.timestep ≤ checker.bound ∧
    ∃ last, refinement.rounds.getLast? = some last ∧
      (∃ assignment : Assignment,
        checker.concrete.task.Violates none outcome.timestep assignment ∧
        assignment.status = false ∧ last.FollowedBy checker.concrete.program assignment) ∧
      (∀ (timestep : Nat) (assignment : Assignment),
        checker.settings.startFrom.toNat ≤ timestep → timestep < outcome.timestep →
        checker.concrete.task.Violates none timestep assignment → assignment.status = false →
        (∃ round ∈ refinement.rounds, round.FollowedBy checker.concrete.program assignment ∧
          ∃ concrete, round.concrete = some concrete ∧ concrete.verdict = .unknown ∧
            round.abstract.timestep ≤ concrete.timestep ∧ concrete.timestep < timestep) ∨
        (last.abstract.timestep ≤ timestep ∧
          ∀ round ∈ refinement.rounds,
            ¬round.FollowedBy checker.concrete.program assignment)) ∧
      ((∀ process < checker.abstract.program.processes.length,
          checker.concrete.program.digits process = checker.abstract.program.digits process) →
        ∀ (timestep : Nat) (assignment : Assignment),
          checker.settings.startFrom.toNat ≤ timestep → timestep < outcome.timestep →
          checker.concrete.task.Violates none timestep assignment → assignment.status = false →
          ¬last.FollowedBy checker.concrete.program assignment) := by
  obtain ⟨progress, abstract, formula, reached, replayed, satisfiable, rounds⟩ :=
    exists_replayed_of_confirmed ran confirmed
  obtain ⟨model, _, _, _, violates, definite, follows⟩ :=
    replayed.exists_confirming satisfiable concreteCorrect.offersModels
  obtain ⟨abstractPath, traced, encoded, _⟩ := replayed.trace
  have later := replayed.replayed.start_le replayed.shown.le_bound
  refine ⟨(reached.startFrom_le.trans replayed.start_le).trans later, replayed.replayed.le_bound,
    progress.round abstract (some outcome), ?_, ?_, ?_, ?_⟩
  · rw [rounds, List.getLast?_concat]
  · exact ⟨model.reading, violates, definite, (Round.followedBy_iff traced encoded).mpr follows⟩
  · intro timestep assignment above before violated definite
    rw [rounds]
    rcases replayed.passes_over reached concreteCorrect.sound abstractCorrect monotone covering above
      before violated definite with ⟨round, member, stopped, _, _, leftOpen, earlier⟩ | unvisited
    · exact Or.inl ⟨round, List.mem_append_left _ member, leftOpen.followedBy, stopped,
        leftOpen.replay, leftOpen.unknown, leftOpen.window, earlier⟩
    · exact Or.inr unvisited
  · intro sameDigits timestep assignment above before violated definite
    rcases replayed.passes_over reached concreteCorrect.sound abstractCorrect monotone covering above
      before violated definite with ⟨round, member, _, _, _, leftOpen, _⟩ | ⟨_, unvisited⟩
    · -- a path that an earlier round left open is not the last round's
      exact (replayed.apart_of_mem abstractCorrect.offersModels sameDigits reached member
        _).not_followedBy sameDigits leftOpen.followedBy
    · exact unvisited _ (List.mem_append_right _ (List.mem_singleton_self _))

theorem refine_passes_over_fork :
    ∃ outcome refinement after last,
      ofFork.refine.run { oracle := ({}, {}) } = .ok (outcome, refinement) after ∧
      outcome.timestep = 3 ∧ Task.forked.Violates none 1 .turning ∧
      refinement.rounds.getLast? = some last ∧
      ¬last.FollowedBy ofFork.concrete.program .turning ∧
      ∃ round ∈ refinement.rounds, round.FollowedBy ofFork.concrete.program .turning ∧
        ∃ concrete, round.concrete = some concrete ∧ concrete.verdict = .unknown ∧
          round.abstract.timestep ≤ concrete.timestep ∧ concrete.timestep < 1 := by
  obtain ⟨outcome, refinement, after, last, ran, confirmed, place, isLast, shown, _⟩ :=
    ofFork_confirmed
  obtain ⟨_, _, round, isRound, _, passedOver, offPath⟩ := refine_passes_over ofFork
    ofFork_concrete_correct ofFork_abstract_correct Task.forked_monotone
    Task.blurred_overapproximates_forked ran confirmed
  rw [isLast] at isRound
  cases isRound
  have before : 1 < outcome.timestep := by omega
  refine ⟨outcome, refinement, after, last, ran, place, Task.forked_violates_turning, isLast, ?_, ?_⟩
  · exact offPath (fun _ _ => rfl) 1 .turning (Nat.zero_le 1) before Task.forked_violates_turning rfl
  · rcases passedOver 1 .turning (Nat.zero_le 1) before Task.forked_violates_turning rfl with
      leftOpen | ⟨later, _⟩
    · exact leftOpen
    · omega

/-- With correct oracles, tasks that are monotone in the status variable and a faithful abstraction, a
refinement can confirm a violation although others are definite before it: one before the last abstract
path ends, and one later, along a path that no round replayed. -/
theorem refine_confirms_late :
    ∃ (checker : Checker (Exhaustive × Exhaustive)) (session after : Session (Exhaustive × Exhaustive))
      (outcome : Outcome) (refinement : Refinement) (last : Round) (early late : Nat),
      checker.property.multiModel = true ∧
      checker.concrete.budget = none ∧ checker.abstract.budget = none ∧
      checker.concrete.oracle.Correct ∧ checker.abstract.oracle.Correct ∧
      checker.concrete.task.Monotone ∧ checker.abstract.task.Monotone ∧
      checker.abstract.task.Overapproximates checker.concrete.task ∧
      checker.refine.run session = .ok (outcome, refinement) after ∧
      refinement.ending = .concreteConfirmed ∧ refinement.rounds.getLast? = some last ∧
      checker.settings.startFrom.toNat ≤ early ∧ early < last.abstract.timestep ∧
      last.abstract.timestep ≤ late ∧ late < outcome.timestep ∧
      outcome.timestep ≤ checker.bound ∧
      checker.concrete.task.Reachable none early false ∧
      ∃ assignment : Assignment, checker.concrete.task.Violates none late assignment ∧
        assignment.status = false ∧
        ∀ round ∈ refinement.rounds,
          ¬round.FollowedBy checker.concrete.program assignment := by
  obtain ⟨outcome, refinement, after, last, ran, confirmed, place, isLast, shown, apart⟩ :=
    ofFork_confirmed
  have early : Task.forked.Reachable none 1 false := ⟨.turning, Task.forked_violates_turning, rfl⟩
  have within : outcome.timestep ≤ ofFork.bound := Nat.le_of_eq place
  exact ⟨ofFork, _, after, outcome, refinement, last, 1, 2, rfl, rfl, rfl, ofFork_concrete_correct,
    ofFork_abstract_correct, Task.forked_monotone, Task.blurred_monotone,
    Task.blurred_overapproximates_forked, ran, confirmed, isLast, Nat.zero_le 1, by omega, by omega,
    by omega, within, early, .staying, Task.forked_violates_staying, rfl, apart⟩

end Checker

end Trivalent
