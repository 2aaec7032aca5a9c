import Trivalent.Proofs.Checker.History
import Trivalent.Proofs.Evaluator.Decision

/-!
What a refinement without a finding tells about the concrete model. If the abstract model
over-approximates it, a possible violation of the concrete model can be missed in one way only: a round
replayed its path and left it open with the verdict unknown. The path is then excluded with all that
follows on it, so even a definite violation can be missed, later on the path.
-/

set_option autoImplicit false

namespace Trivalent

variable {σ : Type}

/-! ### Formulas over locations -/

/-- Only location digits occur in the formula. -/
def Formula.OnLocations (formula : Formula) : Prop :=
  ∀ name ∈ formula.names,
    ∃ timestep process digit, name = (Atom.location timestep process digit).name

namespace Formula.OnLocations

variable {formula : Formula}

theorem eval_eq (onLocations : formula.OnLocations) {left right : Assignment}
    (same : left.SameLocations right) : formula.eval left = formula.eval right := by
  apply Formula.eval_congr
  intro name occurs
  obtain ⟨timestep, process, digit, rfl⟩ := onLocations name occurs
  exact same timestep process digit

theorem negate (onLocations : formula.OnLocations) : formula.negate.OnLocations := by
  intro name occurs
  rw [Formula.names_negate] at occurs
  exact onLocations name occurs

end Formula.OnLocations

theorem Atom.location_name_ne_status (timestep process digit : Nat) :
    (Atom.location timestep process digit).name ≠ Atom.status.name := by
  intro same
  have heads := congrArg (fun text => text.toList.head?) same
  simp [Atom.name] at heads

theorem Assignment.sameLocations_update_status (assignment : Assignment) (value : Option Bool) :
    Assignment.SameLocations (Function.update assignment Atom.status.name value) assignment := by
  intro timestep process digit
  unfold Assignment.read
  rw [Function.update_of_ne (Atom.location_name_ne_status timestep process digit)]

namespace Checker

variable {checker : Checker σ}

theorem Reached.excluded_onLocations {progress : Progress} (reached : checker.Reached progress) :
    ∀ formula ∈ progress.excluded, formula.OnLocations := by
  induction reached with
  | start =>
      intro formula absent
      cases absent
  | refuted _ replayed _ ih =>
      intro formula member
      rcases List.mem_append.mp member with earlier | last
      · exact ih formula earlier
      · obtain ⟨trace, _, encoded, _⟩ := replayed.trace
        rw [List.mem_singleton.mp last]
        exact Formula.OnLocations.negate fun name => Trace.mem_names_formula encoded

/-! ### What the rounds leave open -/

/-- The round replayed the assignment's path on the concrete model and stopped with the verdict
unknown. -/
structure LeftOpen (checker : Checker σ) (assignment : Assignment) (round : Round)
    (concrete : Outcome) (trace : Trace) (formula : Formula) : Prop where
  replay : round.concrete = some concrete
  unknown : concrete.verdict = .unknown
  path : round.abstract.trace = some trace
  encoded : trace.formula checker.concrete.program = .ok formula
  follows : formula.eval assignment = true
  window : round.abstract.timestep ≤ concrete.timestep
  indefinite : checker.concrete.Answered (some formula) concrete.timestep .definite .unsat

def OpenBy (checker : Checker σ) (rounds : List Round) (timestep : Nat) (assignment : Assignment) :
    Prop :=
  ∃ round ∈ rounds, ∃ concrete trace formula,
    checker.LeftOpen assignment round concrete trace formula ∧ concrete.timestep ≤ timestep

theorem OpenBy.append {rounds : List Round} {timestep : Nat} {assignment : Assignment}
    (openBy : checker.OpenBy rounds timestep assignment) (more : List Round) :
    checker.OpenBy (rounds ++ more) timestep assignment := by
  obtain ⟨round, member, rest⟩ := openBy
  exact ⟨round, List.mem_append_left more member, rest⟩

theorem LeftOpen.congr {assignment other : Assignment} {round : Round} {concrete : Outcome}
    {trace : Trace} {formula : Formula}
    (leftOpen : checker.LeftOpen assignment round concrete trace formula)
    (same : assignment.SameLocations other) :
    checker.LeftOpen other round concrete trace formula := by
  have onLocations : formula.OnLocations := fun name => Trace.mem_names_formula leftOpen.encoded
  have follows := leftOpen.follows
  rw [onLocations.eval_eq same] at follows
  exact { leftOpen with follows }

/-- A path that is left open is left open before its definite violations, since a replay that stops at
one of them confirms it. -/
theorem OpenBy.before_definite {rounds : List Round} {timestep : Nat} {assignment : Assignment}
    (openBy : checker.OpenBy rounds timestep
      (Function.update assignment Atom.status.name (some true)))
    (concreteSound : checker.concrete.oracle.Sound)
    (violates : checker.concrete.task.Violates none timestep assignment)
    (definite : assignment.status = false) :
    ∃ round ∈ rounds, ∃ concrete trace formula,
      checker.LeftOpen assignment round concrete trace formula ∧ concrete.timestep < timestep := by
  obtain ⟨round, member, concrete, trace, formula, possibly, stoppedBy⟩ := openBy
  have leftOpen := possibly.congr (assignment.sameLocations_update_status (some true))
  have notHere : concrete.timestep ≠ timestep := by
    intro here
    have indefinite := leftOpen.indefinite
    rw [here] at indefinite
    apply Evaluator.not_reachable_of_denied concreteSound indefinite
    exact ⟨assignment, Task.violates_some_iff.mpr ⟨violates, leftOpen.follows⟩, definite⟩
  exact ⟨round, member, concrete, trace, formula, leftOpen, Nat.lt_of_le_of_ne stoppedBy notHere⟩

section Violation

variable (concreteSound : checker.concrete.oracle.Sound)
  (abstractSound : checker.abstract.oracle.Sound)
  (covering : checker.abstract.task.Overapproximates checker.concrete.task)
  {progress : Progress} {timestep : Nat} {assignment : Assignment}
  (violates : checker.concrete.task.Violates none timestep assignment)
  (possible : assignment.status = true)

include covering violates possible

/-- A possible violation off the excluded paths is one of the abstract model as well. -/
theorem Reached.reachable_abstract (reached : checker.Reached progress)
    (kept : ∀ formula ∈ progress.excluded, formula.eval assignment = true) :
    checker.abstract.task.Reachable progress.constraint timestep true := by
  obtain ⟨companion, same, abstractly, status⟩ := covering timestep assignment violates possible
  refine ⟨companion, Task.violates_iff_unconstrained.mpr ⟨abstractly, ?_⟩, status⟩
  apply Progress.holds_constraint_iff.mpr
  intro formula member
  rw [(reached.excluded_onLocations formula member).eval_eq same]
  exact kept formula member

include abstractSound in
/-- The abstract model sees the violation too, so its own cannot be later. -/
theorem Replayed.timestep_le_of_kept {abstract : Outcome} {formula : Formula} {concrete : Outcome}
    (replayed : checker.Replayed progress abstract formula concrete)
    (reached : checker.Reached progress) (above : progress.start ≤ timestep)
    (kept : ∀ excluded ∈ progress.excluded, excluded.eval assignment = true) :
    abstract.timestep ≤ timestep := by
  by_contra before
  have denied := replayed.shown.denied_before above (Nat.lt_of_not_le before)
  exact Evaluator.not_reachable_of_denied abstractSound denied
    (reached.reachable_abstract covering violates possible kept)

omit covering in
include concreteSound in
theorem not_denied_of_follows {formula : Formula} (follows : formula.eval assignment = true) :
    ¬checker.concrete.Answered (some formula) timestep .possible .unsat := by
  intro denied
  apply Evaluator.not_reachable_of_denied concreteSound denied
  exact ⟨assignment, Task.violates_some_iff.mpr ⟨violates, follows⟩, possible⟩

omit covering in
include concreteSound in
/-- A replay of the violation's own path goes no further than the violation. -/
theorem Replayed.concrete_timestep_le {abstract : Outcome} {formula : Formula} {concrete : Outcome}
    (replayed : checker.Replayed progress abstract formula concrete)
    (later : abstract.timestep ≤ timestep) (follows : formula.eval assignment = true) :
    concrete.timestep ≤ timestep := by
  by_contra before
  exact not_denied_of_follows concreteSound violates possible follows
    (replayed.replayed.denied_before later (Nat.lt_of_not_le before))

include concreteSound abstractSound

/-- A round does not pass by a violation that is off the excluded paths: the violation stays off
them, or its path is left open. -/
theorem Replayed.open_or_kept {abstract : Outcome} {formula : Formula} {concrete : Outcome}
    (replayed : checker.Replayed progress abstract formula concrete)
    (reached : checker.Reached progress)
    (refuted : concrete.verdict = .unknown ∨ concrete.verdict = .noErrorFound)
    (below : timestep ≤ checker.bound) (above : progress.start ≤ timestep)
    (kept : ∀ excluded ∈ progress.excluded, excluded.eval assignment = true) :
    checker.OpenBy [progress.round abstract (some concrete)] timestep assignment ∨
      abstract.timestep ≤ timestep ∧ formula.negate.eval assignment = true := by
  have notLater := replayed.timestep_le_of_kept abstractSound covering violates possible reached
    above kept
  cases follows : formula.eval assignment with
  | false =>
      refine Or.inr ⟨notLater, ?_⟩
      rw [Formula.eval_negate, follows]
      rfl
  | true =>
      have unknown : concrete.verdict = .unknown := by
        rcases refuted with unknown | nothing
        · exact unknown
        · have cleared := (replayed.replayed.denied_of_noErrorFound nothing).2
          exact absurd (cleared timestep notLater below)
            (not_denied_of_follows concreteSound violates possible follows)
      have stoppedBy := replayed.concrete_timestep_le concreteSound violates possible notLater follows
      have window := replayed.replayed.start_le (notLater.trans below)
      obtain ⟨_, _, _, indefinite⟩ := replayed.replayed.shown_of_unknown unknown
      obtain ⟨trace, path, encoded, _⟩ := replayed.trace
      exact Or.inl ⟨_, List.mem_singleton_self _, concrete, trace, formula,
        ⟨rfl, unknown, path, encoded, follows, window, indefinite⟩, stoppedBy⟩

/-- The invariant of the rounds: a violation has its path left open, or is still ahead and off the
excluded paths. -/
theorem Reached.open_or_kept (reached : checker.Reached progress)
    (above : checker.settings.startFrom.toNat ≤ timestep) (below : timestep ≤ checker.bound) :
    checker.OpenBy progress.rounds timestep assignment ∨
      progress.start ≤ timestep ∧
        ∀ formula ∈ progress.excluded, formula.eval assignment = true := by
  induction reached with
  | start =>
      refine Or.inr ⟨above, ?_⟩
      intro formula absent
      cases absent
  | refuted earlier replayed refuted ih =>
      rcases ih with openBy | ⟨ahead, kept⟩
      · exact Or.inl (openBy.append _)
      · have step := replayed.open_or_kept concreteSound abstractSound covering violates possible
          earlier refuted below ahead kept
        rcases step with ⟨round, member, rest⟩ | ⟨later, off⟩
        · exact Or.inl ⟨round, List.mem_append_right _ member, rest⟩
        · refine Or.inr ⟨later, ?_⟩
          intro formula member
          rcases List.mem_append.mp member with old | last
          · exact kept formula old
          · rw [List.mem_singleton.mp last]
            exact off

theorem openBy_of_noErrorFound {outcome : Outcome} {refinement : Refinement}
    {session after : Session σ}
    (ran : checker.refine.run session = .ok (outcome, refinement) after)
    (nothing : outcome.verdict = .noErrorFound)
    (above : checker.settings.startFrom.toNat ≤ timestep) (below : timestep ≤ checker.bound) :
    checker.OpenBy refinement.rounds timestep assignment := by
  obtain ⟨last, reached, concluded⟩ := refine_concluded ran
  cases concluded with
  | settled accounts _ =>
      rcases reached.open_or_kept concreteSound abstractSound covering violates possible above below
        with openBy | ⟨ahead, kept⟩
      · exact openBy.append _
      · have denied := (accounts.denied_of_noErrorFound nothing).2 timestep ahead below
        exact absurd (reached.reachable_abstract covering violates possible kept)
          (Evaluator.not_reachable_of_denied abstractSound denied)
  | unsettled _ contrary => cases nothing.symm.trans contrary
  | confirmed _ contrary => cases nothing.symm.trans contrary
  | stalled _ contrary => cases nothing.symm.trans contrary
  | exhausted _ => cases nothing

end Violation

/-- A refinement that finds nothing misses no possible violation of the concrete model, except along
paths that a round left open with the verdict unknown. -/
theorem refine_covers_possible (checker : Checker σ)
    (concreteSound : checker.concrete.oracle.Sound) (abstractSound : checker.abstract.oracle.Sound)
    (covering : checker.abstract.task.Overapproximates checker.concrete.task)
    {outcome : Outcome} {refinement : Refinement} {session after : Session σ}
    (ran : checker.refine.run session = .ok (outcome, refinement) after)
    (nothing : outcome.verdict = .noErrorFound) {timestep : Nat}
    (above : checker.settings.startFrom.toNat ≤ timestep) (below : timestep ≤ checker.bound)
    {assignment : Assignment}
    (violates : checker.concrete.task.Violates none timestep assignment)
    (possible : assignment.status = true) :
    ∃ round ∈ refinement.rounds, ∃ concrete trace formula,
      round.concrete = some concrete ∧ concrete.verdict = .unknown ∧
      round.abstract.trace = some trace ∧
      trace.formula checker.concrete.program = .ok formula ∧ formula.eval assignment = true := by
  obtain ⟨round, member, concrete, trace, formula, leftOpen, _⟩ :=
    openBy_of_noErrorFound concreteSound abstractSound covering violates possible ran nothing above
      below
  exact ⟨round, member, concrete, trace, formula, leftOpen.replay, leftOpen.unknown, leftOpen.path,
    leftOpen.encoded, leftOpen.follows⟩

/-! ### Two models of one process -/

/-- A concrete and an abstract model, each with an exhaustive oracle of its own. -/
def ofTasks (concrete abstract : Task) : Checker (Exhaustive × Exhaustive) where
  models :=
    [.single (Exhaustive.oracle.focus Prod.fst fun own whole => (own, whole.2)) concrete,
      { Evaluator.single (Exhaustive.oracle.focus Prod.snd fun own whole => (whole.1, own)) abstract
        with label := "abstract" }]
  property := { multiModel := true }
  settings := { bound := 1 }
  nonempty := List.cons_ne_nil _ _
  valid := rfl
  paired _ := Nat.le_refl 2

theorem ofTasks_concrete_correct (concrete abstract : Task) :
    (ofTasks concrete abstract).concrete.oracle.Correct :=
  Exhaustive.oracle_correct.focus (fun _ _ => rfl) (fun _ _ _ => rfl)

theorem ofTasks_abstract_correct (concrete abstract : Task) :
    (ofTasks concrete abstract).abstract.oracle.Correct :=
  Exhaustive.oracle_correct.focus (fun _ _ => rfl) (fun _ _ _ => rfl)

end Checker

/-- Nothing is known of the process, and the property may be violated anywhere. -/
def Task.adrift : Task where
  initial := .const true
  transition _ := .const true
  violation _ := Atom.status.formula true

theorem Task.adrift_overapproximates_walk : adrift.Overapproximates walk := by
  intro timestep assignment _ possible
  refine ⟨assignment, fun _ _ _ => rfl, Task.violates_none_iff.mpr ?_, possible⟩
  exact ⟨rfl, fun _ _ => rfl, Literal.holds_iff.mpr possible⟩

namespace Checker

/-- The first of the three rounds is refuted by the initial state, the second is left open at
timestep 1, and the third has no path left. -/
theorem refine_covers_possible_walk :
    ∃ outcome refinement after,
      (ofTasks .walk .adrift).refine.run { oracle := ({}, {}) } = .ok (outcome, refinement) after ∧
      outcome.verdict = .noErrorFound ∧ refinement.rounds.length = 3 ∧
      ∃ round ∈ refinement.rounds, ∃ concrete trace formula,
        round.concrete = some concrete ∧ concrete.verdict = .unknown ∧
        round.abstract.trace = some trace ∧
        trace.formula (ofTasks .walk .adrift).concrete.program = .ok formula ∧
        formula.eval .leaving = true := by
  have viewed : ((ofTasks .walk .adrift).refine.run' { oracle := ({}, {}) }).map
      (fun ended => (ended.1.verdict, ended.2.rounds.length)) = some (.noErrorFound, 3) := by
    decide +kernel
  obtain ⟨⟨outcome, refinement⟩, after, ran, seen⟩ := EvalM.exists_run_of_run' viewed
  obtain ⟨nothing, count⟩ := Prod.mk.inj seen
  refine ⟨outcome, refinement, after, ran, nothing, count, ?_⟩
  exact refine_covers_possible (ofTasks .walk .adrift)
    (ofTasks_concrete_correct .walk .adrift).sound (ofTasks_abstract_correct .walk .adrift).sound
    Task.adrift_overapproximates_walk ran nothing (Nat.zero_le 1) (Nat.le_refl 1)
    Task.walk_violates_leaving Assignment.status_leaving

/-- A refinement that finds nothing may miss a definite violation of the concrete model, but only one
that comes after a replay on the same path has stopped with the verdict unknown. -/
theorem refine_covers_definite (checker : Checker σ)
    (concreteSound : checker.concrete.oracle.Sound) (abstractSound : checker.abstract.oracle.Sound)
    (monotone : checker.concrete.task.Monotone)
    (covering : checker.abstract.task.Overapproximates checker.concrete.task)
    {outcome : Outcome} {refinement : Refinement} {session after : Session σ}
    (ran : checker.refine.run session = .ok (outcome, refinement) after)
    (nothing : outcome.verdict = .noErrorFound) {timestep : Nat}
    (above : checker.settings.startFrom.toNat ≤ timestep) (below : timestep ≤ checker.bound)
    {assignment : Assignment}
    (violates : checker.concrete.task.Violates none timestep assignment)
    (definite : assignment.status = false) :
    ∃ round ∈ refinement.rounds, ∃ concrete trace formula,
      round.concrete = some concrete ∧ concrete.verdict = .unknown ∧
      round.abstract.trace = some trace ∧
      trace.formula checker.concrete.program = .ok formula ∧ formula.eval assignment = true ∧
      round.abstract.timestep ≤ concrete.timestep ∧ concrete.timestep < timestep := by
  have possibly := monotone timestep assignment violates definite
  have openBy := openBy_of_noErrorFound concreteSound abstractSound covering possibly
    (assignment.status_update true) ran nothing above below
  obtain ⟨round, member, concrete, trace, formula, leftOpen, before⟩ :=
    openBy.before_definite concreteSound violates definite
  exact ⟨round, member, concrete, trace, formula, leftOpen.replay, leftOpen.unknown, leftOpen.path,
    leftOpen.encoded, leftOpen.follows, leftOpen.window, before⟩

end Checker

/-- The process starts at location 0. At once the property may be violated, and from timestep 1 on it
is. -/
def Task.wavering : Task where
  initial := Location.encode 0 0 0 1
  transition _ := .const true
  violation timestep := if timestep = 0 then Atom.status.formula true else .const true

namespace Task

theorem wavering_violates_iff {timestep : Nat} {assignment : Assignment} :
    wavering.Violates none timestep assignment ↔
      assignment.read (Atom.location 0 0 0).name = false ∧
        (timestep = 0 → assignment.status = true) := by
  rw [violates_none_iff]
  by_cases first : timestep = 0
  · simp only [wavering, first, if_true, forall_const, Location.eval_encode_digit, Nat.zero_testBit,
      Atom.formula, Formula.eval, Literal.holds_iff, Atom.literal, Assignment.status,
      Nat.not_lt_zero, implies_true, true_and]
  · simp only [wavering, first, if_false, Location.eval_encode_digit, Nat.zero_testBit,
      Formula.eval, false_implies, implies_true, and_true]

theorem wavering_monotone : wavering.Monotone := by
  intro timestep assignment violates _
  have initial := (wavering_violates_iff.mp violates).1
  rw [wavering_violates_iff, assignment.sameLocations_update_status (some true) 0 0 0]
  exact ⟨initial, fun _ => assignment.status_update true⟩

theorem wavering_overapproximates : wavering.Overapproximates wavering := by
  intro timestep assignment violates possible
  exact ⟨assignment, fun _ _ _ => rfl, violates, possible⟩

end Task

def Assignment.staying : Assignment := fun _ => some false

theorem Task.wavering_violates_staying : wavering.Violates none 1 .staying :=
  wavering_violates_iff.mpr ⟨rfl, fun first => absurd first Nat.one_ne_zero⟩

namespace Checker

theorem wavering_noErrorFound :
    ∃ outcome refinement after,
      (ofTasks .wavering .wavering).refine.run { oracle := ({}, {}) } =
        .ok (outcome, refinement) after ∧
      outcome.verdict = .noErrorFound := by
  have viewed : ((ofTasks .wavering .wavering).refine.run' { oracle := ({}, {}) }).map
      (fun ended => ended.1.verdict) = some .noErrorFound := by
    decide +kernel
  obtain ⟨⟨outcome, refinement⟩, after, ran, seen⟩ := EvalM.exists_run_of_run' viewed
  exact ⟨outcome, refinement, after, ran, seen⟩

theorem refine_covers_definite_wavering :
    ∃ outcome refinement after,
      (ofTasks .wavering .wavering).refine.run { oracle := ({}, {}) } =
        .ok (outcome, refinement) after ∧
      outcome.verdict = .noErrorFound ∧
      ∃ round ∈ refinement.rounds, ∃ concrete trace formula,
        round.concrete = some concrete ∧ concrete.verdict = .unknown ∧
        round.abstract.trace = some trace ∧
        trace.formula (ofTasks .wavering .wavering).concrete.program = .ok formula ∧
        formula.eval .staying = true ∧
        round.abstract.timestep ≤ concrete.timestep ∧ concrete.timestep < 1 := by
  obtain ⟨outcome, refinement, after, ran, nothing⟩ := wavering_noErrorFound
  refine ⟨outcome, refinement, after, ran, nothing, ?_⟩
  exact refine_covers_definite (ofTasks .wavering .wavering)
    (ofTasks_concrete_correct .wavering .wavering).sound
    (ofTasks_abstract_correct .wavering .wavering).sound Task.wavering_monotone
    Task.wavering_overapproximates ran nothing (Nat.zero_le 1) (Nat.le_refl 1)
    Task.wavering_violates_staying rfl

/-- With correct oracles, tasks that are monotone in the status variable and a faithful abstraction, a
refinement can find nothing although a violation in its window is definite. -/
theorem refine_misses_definite :
    ∃ (checker : Checker (Exhaustive × Exhaustive)) (session after : Session (Exhaustive × Exhaustive))
      (outcome : Outcome) (refinement : Refinement) (timestep : Nat),
      checker.property.multiModel = true ∧
      checker.concrete.budget = none ∧ checker.abstract.budget = none ∧
      checker.concrete.oracle.Correct ∧ checker.abstract.oracle.Correct ∧
      checker.concrete.task.Monotone ∧ checker.abstract.task.Monotone ∧
      checker.abstract.task.Overapproximates checker.concrete.task ∧
      checker.refine.run session = .ok (outcome, refinement) after ∧
      outcome.verdict = .noErrorFound ∧
      checker.settings.startFrom.toNat ≤ timestep ∧ timestep ≤ checker.bound ∧
      checker.concrete.task.Reachable none timestep false := by
  obtain ⟨outcome, refinement, after, ran, nothing⟩ := wavering_noErrorFound
  have definite : Task.wavering.Reachable none 1 false :=
    ⟨.staying, Task.wavering_violates_staying, rfl⟩
  exact ⟨ofTasks .wavering .wavering, _, after, outcome, refinement, 1, rfl, rfl, rfl,
    ofTasks_concrete_correct _ _, ofTasks_abstract_correct _ _, Task.wavering_monotone,
    Task.wavering_monotone, Task.wavering_overapproximates, ran, nothing, Nat.zero_le 1,
    Nat.le_refl 1, definite⟩

end Checker

end Trivalent
