import Trivalent.Proofs.Checker.Chronicle
import Trivalent.Proofs.Checker.Isolation
import Trivalent.Proofs.Evaluator.Entries
import Trivalent.Proofs.Evaluator.Realisation

/-!
How a check with refinement can fail. If the oracles never fail and always have a model to offer, every
evaluation comes to an outcome, so all that is left is the formula of a trace: the abstract program may
have processes that the concrete one does not know. Then the check fails at the first trace of the
abstract model that it has to follow, and it fails in no other way (`check_fails_iff`).
-/

set_option autoImplicit false

namespace Trivalent

variable {σ : Type}

/-! ### Traces of other programs -/

theorem mapM_error_of_first {α β ε : Type} (action : α → Except ε β) {problem : ε}
    {before : List α} {item : α} (fails : action item = .error problem)
    (fine : ∀ earlier ∈ before, ∃ result, action earlier = .ok result) (after : List α) :
    (before ++ item :: after).mapM action = .error problem := by
  induction before with
  | nil =>
      rw [List.nil_append, List.mapM_cons, fails]
      rfl
  | cons first rest ih =>
      obtain ⟨⟨result, done⟩, later⟩ := List.forall_mem_cons.mp fine
      rw [List.cons_append, List.mapM_cons, done, ih later]
      rfl

theorem Program.locate_error {program : Program} {timestep : Nat} {place : ProcessLocation}
    (unknown : program.processes.length ≤ place.process) :
    program.locate timestep place =
      .error (.unknownProcess place.process program.processes.length) := by
  unfold Program.locate Program.encodeLocation?
  rw [List.getElem?_eq_none unknown]
  rfl

/-- Of processes in order, the first that the program does not know is the one after its last. -/
theorem Program.mapM_locate_error {program : Program} {timestep count : Nat}
    (more : program.processes.length < count) (place : Nat → Nat) :
    ((List.range count).map fun process => (⟨process, place process⟩ : ProcessLocation)).mapM
        (program.locate timestep) =
      .error (.unknownProcess program.processes.length program.processes.length) := by
  obtain ⟨rest, rfl⟩ := Nat.exists_eq_add_of_lt more
  rw [Nat.add_assoc, List.range_add, List.range_succ_eq_map, List.map_append, List.map_cons,
    List.map_cons]
  apply mapM_error_of_first
  · exact locate_error (Nat.le_refl _)
  · rw [List.forall_mem_map]
    intro process known
    exact ⟨_, locate_ok_iff.mpr ⟨List.mem_range.mp known, rfl⟩⟩

namespace Trace

variable {trace : Trace} {program : Program} {count bound : Nat} {place : Nat → Nat → Nat}

theorem Follows.formula_error (follows : trace.Follows count bound place)
    (more : program.processes.length < count) :
    trace.formula program =
      .error (.unknownProcess program.processes.length program.processes.length) := by
  unfold Follows at follows
  rw [List.range_succ_eq_map, List.map_cons, List.map_eq_cons_iff] at follows
  obtain ⟨first, rest, states, here, _⟩ := follows
  obtain ⟨_, locations⟩ := Prod.mk.inj here
  have fails : first.locationFormulas program =
      .error (.unknownProcess program.processes.length program.processes.length) := by
    rw [State.locationFormulas, locations]
    exact program.mapM_locate_error more (place 0)
  have stops := mapM_error_of_first (fun state : State => state.locationFormulas program) fails
    (List.forall_mem_nil _) rest
  rw [Trace.formula, states, ← List.nil_append (first :: rest), stops]
  rfl

end Trace

/-- The outcome shows a trace of full shape with so many processes. -/
def Outcome.TracedWith (count : Nat) (outcome : Outcome) : Prop :=
  ∃ trace place, outcome.trace = some trace ∧ trace.Follows count outcome.timestep place

theorem Evaluator.Accounts.tracedWith {evaluator : Evaluator σ} {constraint : Option Formula}
    {bound start : Nat} {outcome : Outcome}
    (accounts : evaluator.Accounts constraint bound start outcome)
    (violation : outcome.verdict = .satisfiable ∨ outcome.verdict = .unknown) :
    outcome.TracedWith evaluator.program.processes.length := by
  obtain ⟨phase, verdict⟩ : ∃ phase : Phase, outcome.verdict = phase.verdict := by
    rcases violation with definite | possible
    · exact ⟨.definite, definite⟩
    · exact ⟨.possible, possible⟩
  obtain ⟨trace, traced, _, model, _, _, decoded⟩ := accounts.shown_of_verdict phase verdict
  exact ⟨trace, _, traced, Model.follows_of_decode decoded⟩

namespace EvalM

variable {α β : Type}

theorem Succeeds.bind {action : EvalM σ α} {next : α → EvalM σ β} {session : Session σ}
    (first : action.Succeeds session)
    (second : ∀ value middle, action.run session = .ok value middle →
      (next value).Succeeds middle) :
    (action >>= next).Succeeds session := by
  obtain ⟨value, middle, ran⟩ := first
  obtain ⟨result, after, rest⟩ := second value middle ran
  exact ⟨result, after, bind_ok_iff.mpr ⟨value, middle, ran, rest⟩⟩

theorem succeeds_pure (value : α) (session : Session σ) : (pure value : EvalM σ α).Succeeds session :=
  ⟨value, session, rfl⟩

theorem Succeeds.ne_error {action : EvalM σ α} {session : Session σ}
    (succeeds : action.Succeeds session) (problem : CheckError) :
    action.answer session ≠ .error problem := by
  obtain ⟨value, after, ran⟩ := succeeds
  rw [answer_eq_ok_iff.mpr ⟨after, ran⟩]
  nofun

end EvalM

namespace Checker

open EvalM

variable {checker : Checker σ}

/-! ### Formulas of the abstract model's traces -/

theorem traceFormula_succeeds {count : Nat} {outcome : Outcome}
    (traced : outcome.TracedWith count)
    (fits : count ≤ checker.concrete.program.processes.length) (session : Session σ) :
    (checker.traceFormula outcome).Succeeds session := by
  obtain ⟨trace, place, found, follows⟩ := traced
  have encoded := follows.formula_ok fits
  refine ⟨Formula.conj (trace.parts checker.concrete.program), session, ?_⟩
  rw [traceFormula, found, Option.getD_some, encoded]
  rfl

/-- The failure of a check that has to follow the trace of an outcome and does not know all of its
processes. -/
def misfit (checker : Checker σ) (outcome : Outcome) : CheckError :=
  .decode outcome.timestep (.unknownProcess checker.concrete.program.processes.length
    checker.concrete.program.processes.length)

theorem run_traceFormula_of_misfit {count : Nat} {outcome : Outcome}
    (traced : outcome.TracedWith count)
    (more : checker.concrete.program.processes.length < count) (session : Session σ) :
    (checker.traceFormula outcome).run session = .error (checker.misfit outcome) session := by
  obtain ⟨trace, place, found, follows⟩ := traced
  rw [traceFormula, found, Option.getD_some, follows.formula_error more]
  rfl

/-! ### Checks that return -/

/-- The two models that a refinement uses have reliable oracles and write no files. -/
structure Dependable (checker : Checker σ) : Prop where
  concrete : checker.concrete.oracle.Reliable
  abstract : checker.abstract.oracle.Reliable
  concreteUnwritten : checker.concrete.dump = none
  abstractUnwritten : checker.abstract.dump = none

theorem Concluded.le_bound {progress : Progress} {outcome : Outcome} {refinement : Refinement}
    (concluded : checker.Concluded progress outcome refinement)
    (reached : checker.Reached progress) : outcome.timestep ≤ checker.bound := by
  cases concluded with
  | settled accounts _ => exact accounts.le_bound
  | unsettled accounts _ => exact accounts.le_bound
  | confirmed replayed _ => exact replayed.replayed.le_bound
  | stalled replayed _ => exact replayed.replayed.le_bound
  | exhausted _ => exact reached.kept.bounded

section Fits

variable
  (fits : checker.abstract.program.processes.length ≤ checker.concrete.program.processes.length)

include fits

theorem Concluded.exists_tracedWith {progress : Progress} {outcome : Outcome}
    {refinement : Refinement} (concluded : checker.Concluded progress outcome refinement)
    (violation : outcome.verdict = .satisfiable ∨ outcome.verdict = .unknown) :
    ∃ count ≤ checker.concrete.program.processes.length, outcome.TracedWith count := by
  cases concluded with
  | settled accounts _ => exact ⟨_, fits, accounts.tracedWith violation⟩
  | unsettled accounts _ => exact ⟨_, fits, accounts.tracedWith violation⟩
  | confirmed replayed _ => exact ⟨_, Nat.le_refl _, replayed.replayed.tracedWith violation⟩
  | stalled replayed _ => exact ⟨_, Nat.le_refl _, replayed.replayed.tracedWith violation⟩
  | exhausted _ => rcases violation with impossible | impossible <;> cases impossible

variable (dependable : checker.Dependable)

include dependable

theorem replay_succeeds {number : Nat} {progress : Progress} {round : Round}
    {constraint : Option Formula} {start : Nat}
    (shown : checker.abstract.Accounts constraint checker.bound start round.abstract)
    (unknown : round.abstract.verdict = .unknown) (session : Session σ) :
    (checker.replay number progress round).Succeeds session := by
  refine (traceFormula_succeeds (shown.tracedWith (Or.inr unknown)) fits session).bind
    fun formula encoded _ => ?_
  refine Succeeds.bind ⟨_, _, run_note _ encoded⟩ fun _ noted _ => ?_
  refine (Evaluator.evaluate_succeeds dependable.concrete dependable.concreteUnwritten shown.le_bound
    (some formula) noted).bind fun outcome replayed _ => ?_
  cases outcome.verdict with
  | satisfiable => exact ⟨_, _, rfl⟩
  | inconclusive reason => exact ⟨_, _, rfl⟩
  | unknown => exact ⟨_, _, rfl⟩
  | noErrorFound => exact ⟨_, _, rfl⟩

theorem refineOnce_succeeds {number : Nat} {progress : Progress}
    (window : progress.start ≤ checker.bound) (session : Session σ) :
    (checker.refineOnce number progress).Succeeds session := by
  refine Succeeds.bind ⟨_, _, run_note _ session⟩ fun _ noted _ => ?_
  refine (Evaluator.evaluate_succeeds dependable.abstract dependable.abstractUnwritten window _
    noted).bind fun outcome evaluated ran => ?_
  cases verdict : outcome.verdict with
  | satisfiable => exact ⟨_, _, rfl⟩
  | noErrorFound => exact ⟨_, _, rfl⟩
  | inconclusive reason => exact ⟨_, _, rfl⟩
  | unknown =>
      exact replay_succeeds fits dependable (Evaluator.evaluate_accounts ran).2 verdict evaluated

theorem refineFrom_succeeds {left : Nat} {progress : Progress} (reached : checker.Reached progress)
    (session : Session σ) :
    (checker.refineFrom left progress.rounds.length progress).Succeeds session := by
  induction left generalizing progress session with
  | zero => exact ⟨_, _, rfl⟩
  | succ left ih =>
      refine (refineOnce_succeeds fits dependable reached.kept.bounded session).bind
        fun step middle ran => ?_
      cases refineOnce_ok ran with
      | stop _ => exact succeeds_pure _ middle
      | @next abstract formula concrete replayed refuted =>
          have later := ih (.refuted reached replayed refuted) middle
          have counted : (progress.refute abstract formula concrete).rounds.length =
              progress.rounds.length + 1 := List.length_append
          rw [counted] at later
          exact later

theorem retest_succeeds_of_refine {ended : Outcome × Refinement} {before session : Session σ}
    (ran : checker.refine.run before = .ok ended session) :
    (checker.retest ended.1).Succeeds session := by
  obtain ⟨progress, reached, concluded⟩ := refine_concluded ran
  unfold retest
  split
  · rename_i violation
    obtain ⟨count, known, traced⟩ := concluded.exists_tracedWith fits violation
    refine (traceFormula_succeeds traced known session).bind fun formula encoded _ => ?_
    refine Succeeds.bind ⟨_, _, run_note _ encoded⟩ fun _ noted _ => ?_
    refine (Evaluator.evaluate_succeeds dependable.concrete dependable.concreteUnwritten
      (concluded.le_bound reached) (some formula) noted).bind fun again evaluated _ => ?_
    split
    · exact succeeds_pure _ evaluated
    · exact ⟨_, _, rfl⟩
  · exact succeeds_pure _ session

end Fits

/-! ### The first evaluation of the abstract model -/

section First

variable {first : Outcome} {session middle : Session σ}
  (ran : (checker.abstract.evaluate checker.bound checker.settings.startFrom.toNat none).run
    { session with journal := session.journal ++
      [.note (.abstractRound 0 checker.settings.startFrom.toNat 0)] } = .ok first middle)

include ran

theorem run_refine_of_unknown (unknown : first.verdict = .unknown)
    (more : checker.concrete.program.processes.length <
      checker.abstract.program.processes.length) :
    checker.refine.run session = .error (checker.misfit first) middle := by
  obtain ⟨left, limit⟩ := Nat.exists_eq_succ_of_ne_zero (Nat.ne_of_gt checker.maxRefinements_pos)
  have traced := (Evaluator.evaluate_accounts ran).2.tracedWith (Or.inr unknown)
  rw [refine, limit, refineFrom, EStateM.run_bind, refineOnce, EStateM.run_bind, run_note]
  simp only [List.isEmpty_nil, if_true, List.length_nil]
  rw [EStateM.run_bind, ran]
  simp only [unknown]
  rw [replay, EStateM.run_bind, run_traceFormula_of_misfit traced more]

theorem run_refine_of_known (known : first.verdict ≠ .unknown) :
    ∃ refinement, checker.refine.run session = .ok (first, refinement) middle := by
  obtain ⟨left, limit⟩ := Nat.exists_eq_succ_of_ne_zero (Nat.ne_of_gt checker.maxRefinements_pos)
  rw [refine, limit, refineFrom, EStateM.run_bind, refineOnce, EStateM.run_bind, run_note]
  simp only [List.isEmpty_nil, if_true, List.length_nil]
  rw [EStateM.run_bind, ran]
  cases verdict : first.verdict with
  | unknown => exact absurd verdict known
  | satisfiable =>
      simp only [verdict]
      exact ⟨_, rfl⟩
  | noErrorFound =>
      simp only [verdict]
      exact ⟨_, rfl⟩
  | inconclusive reason =>
      simp only [verdict]
      exact ⟨_, rfl⟩

end First

/-! ### Whole checks -/

section Refining

variable (refining : checker.property.multiModel = true)

include refining

theorem check_eq_of_refine :
    checker.check = (do
      let started ← now
      let ended ← checker.refine
      let again ← checker.secondary ended.1
      let time ← now
      return ⟨ended.1, some ended.2, again, time - started⟩) := by
  rw [check_eq, primary, if_pos refining]
  simp only [bind_assoc, pure_bind]

theorem check_succeeds (dependable : checker.Dependable)
    (fits : checker.abstract.program.processes.length ≤ checker.concrete.program.processes.length)
    (session : Session σ) : checker.check.Succeeds session := by
  rw [check_eq_of_refine refining]
  refine Succeeds.bind ⟨_, _, run_now session⟩ fun started begun _ => ?_
  refine (refineFrom_succeeds fits dependable .start begun).bind fun ended refined ran => ?_
  have retests : (checker.secondary ended.1).Succeeds refined := by
    unfold secondary
    split
    · exact retest_succeeds_of_refine fits dependable ran
    · exact succeeds_pure _ refined
  refine retests.bind fun again retested _ => ?_
  exact Succeeds.bind ⟨_, _, run_now retested⟩ fun time last _ => succeeds_pure _ last

theorem check_fails_of_refine {problem : CheckError} {session after : Session σ}
    (ran : checker.refine.run session = .error problem after) :
    checker.check.answer session = .error problem := by
  rw [check_eq_of_refine refining, answer_bind_ok (run_now session), answer_bind_error ran]

section First

variable {first : Outcome} {session middle : Session σ}
  (ran : (checker.abstract.evaluate checker.bound checker.settings.startFrom.toNat none).run
    { session with journal := session.journal ++
      [.note (.abstractRound 0 checker.settings.startFrom.toNat 0)] } = .ok first middle)

include ran

theorem check_fails_of_retest (satisfiable : first.verdict = .satisfiable)
    (twice : checker.property.doubleTest = true)
    (more : checker.concrete.program.processes.length <
      checker.abstract.program.processes.length) :
    checker.check.answer session = .error (checker.misfit first) := by
  have known : first.verdict ≠ .unknown := by
    rw [satisfiable]
    nofun
  obtain ⟨refinement, refined⟩ := run_refine_of_known ran known
  have traced := (Evaluator.evaluate_accounts ran).2.tracedWith (Or.inl satisfiable)
  rw [check_eq_of_refine refining, answer_bind_ok (run_now session), answer_bind_ok refined]
  apply answer_bind_error
  rw [secondary, if_pos twice, retest, if_pos (Or.inl satisfiable), EStateM.run_bind,
    run_traceFormula_of_misfit traced more]

theorem check_succeeds_of_settled (known : first.verdict ≠ .unknown)
    (once : ¬(first.verdict = .satisfiable ∧ checker.property.doubleTest = true)) :
    checker.check.Succeeds session := by
  obtain ⟨refinement, refined⟩ := run_refine_of_known ran known
  have untested : (checker.secondary first).run middle = .ok none middle := by
    unfold secondary
    split
    · rename_i twice
      have quiet : ¬(first.verdict = .satisfiable ∨ first.verdict = .unknown) := by
        rintro (satisfiable | unknown)
        · exact once ⟨satisfiable, twice⟩
        · exact known unknown
      rw [retest, if_neg quiet]
      rfl
    · rfl
  rw [check_eq_of_refine refining]
  refine Succeeds.bind ⟨_, _, run_now session⟩ fun started begun same => ?_
  cases same
  refine Succeeds.bind ⟨_, _, refined⟩ fun ended last same => ?_
  cases refined.symm.trans same
  refine Succeeds.bind ⟨_, _, untested⟩ fun again retested _ => ?_
  exact Succeeds.bind ⟨_, _, run_now retested⟩ fun time after _ => succeeds_pure _ after

end First

end Refining

/-! ### Where evaluations start -/

/-- Announces no evaluation from beyond the bound. -/
def Admits (checker : Checker σ) (entry : Entry) : Prop :=
  ∀ start ∈ entry.start?, start ≤ checker.bound

theorem evaluate_admitted (evaluator : Evaluator σ) (start : Nat) (constraint : Option Formula)
    (session : Session σ) :
    (evaluator.evaluate checker.bound start constraint).Writes checker.Admits session := by
  apply (evaluator.evaluate_writes checker.bound start constraint session).mono
  intro entry unannounced
  rw [Admits, unannounced]
  nofun

theorem writes_announcement {content : Note} {start : Nat}
    (announced : (Entry.note content).start? = some start) (within : start ≤ checker.bound)
    (session : Session σ) : (note content).Writes checker.Admits session := by
  apply writes_record
  rw [Admits, announced]
  rintro _ ⟨⟩
  exact within

theorem writes_remark {content : Note} (unannounced : (Entry.note content).start? = none)
    (session : Session σ) : (note content).Writes checker.Admits session := by
  apply writes_record
  rw [Admits, unannounced]
  nofun

theorem traceFormula_writes (outcome : Outcome) (session : Session σ) :
    (checker.traceFormula outcome).Writes checker.Admits session := by
  unfold traceFormula
  split
  · exact writes_pure _ session
  · exact writes_throw _ session

theorem replay_writes {number : Nat} {progress : Progress} {round : Round}
    (within : round.abstract.timestep ≤ checker.bound) (session : Session σ) :
    (checker.replay number progress round).Writes checker.Admits session := by
  refine (traceFormula_writes round.abstract session).bind fun formula encoded _ => ?_
  refine (writes_announcement rfl within encoded).bind fun _ noted _ => ?_
  refine (evaluate_admitted _ _ _ noted).bind fun outcome replayed _ => ?_
  cases outcome.verdict with
  | satisfiable => exact (writes_remark rfl replayed).bind fun _ last _ => writes_pure _ last
  | inconclusive reason => exact writes_pure _ replayed
  | unknown => exact (writes_remark rfl replayed).bind fun _ last _ => writes_pure _ last
  | noErrorFound => exact (writes_remark rfl replayed).bind fun _ last _ => writes_pure _ last

theorem refineOnce_writes {number : Nat} {progress : Progress}
    (within : progress.start ≤ checker.bound) (session : Session σ) :
    (checker.refineOnce number progress).Writes checker.Admits session := by
  refine (writes_announcement rfl within session).bind fun _ noted _ => ?_
  refine (evaluate_admitted _ _ _ noted).bind fun outcome evaluated ran => ?_
  cases outcome.verdict with
  | satisfiable => exact writes_pure _ evaluated
  | noErrorFound => exact writes_pure _ evaluated
  | inconclusive reason => exact writes_pure _ evaluated
  | unknown => exact replay_writes (Evaluator.evaluate_accounts ran).2.le_bound evaluated

theorem refineFrom_writes {left : Nat} {progress : Progress} (reached : checker.Reached progress)
    (session : Session σ) :
    (checker.refineFrom left progress.rounds.length progress).Writes checker.Admits session := by
  induction left generalizing progress session with
  | zero => exact (writes_remark rfl session).bind fun _ last _ => writes_pure _ last
  | succ left ih =>
      refine (refineOnce_writes reached.kept.bounded session).bind fun step middle ran => ?_
      cases refineOnce_ok ran with
      | stop _ => exact writes_pure _ middle
      | @next abstract formula concrete replayed refuted =>
          have later := ih (.refuted reached replayed refuted) middle
          have counted : (progress.refute abstract formula concrete).rounds.length =
              progress.rounds.length + 1 := List.length_append
          rw [counted] at later
          exact later

theorem retest_writes {outcome : Outcome} (within : outcome.timestep ≤ checker.bound)
    (session : Session σ) : (checker.retest outcome).Writes checker.Admits session := by
  unfold retest
  split
  · refine (traceFormula_writes outcome session).bind fun formula encoded _ => ?_
    refine (writes_announcement rfl within encoded).bind fun _ noted _ => ?_
    refine (evaluate_admitted _ _ _ noted).bind fun again evaluated _ => ?_
    split
    · exact writes_pure _ evaluated
    · exact (writes_remark rfl evaluated).bind fun _ last _ => writes_pure _ last
  · exact writes_pure _ session

theorem check_writes (refining : checker.property.multiModel = true) (session : Session σ) :
    checker.check.Writes checker.Admits session := by
  rw [check_eq_of_refine refining]
  refine (writes_of_keeps rfl : now.Writes _ session).bind fun started begun _ => ?_
  refine Writes.bind (refineFrom_writes .start begun) fun ended refined ran => ?_
  obtain ⟨progress, reached, concluded⟩ := refine_concluded ran
  have retests : (checker.secondary ended.1).Writes checker.Admits refined := by
    unfold secondary
    split
    · exact retest_writes (concluded.le_bound reached) refined
    · exact writes_pure _ refined
  refine retests.bind fun again retested _ => ?_
  exact (writes_of_keeps rfl : now.Writes _ retested).bind fun time last _ => writes_pure _ last

end Checker

/-! ### The ways to fail -/

theorem Oracle.agrees_self (oracle : Oracle σ) : oracle.Agrees oracle Eq where
  answer _ _ _ same := by rw [same]
  took _ _ _ same := by rw [same]
  model _ _ _ same := by rw [same]
  related _ _ _ same := by rw [same]

/-- An evaluation does not read what was written before. -/
theorem Evaluator.answer_evaluate_journal (evaluator : Evaluator σ) (bound start : Nat)
    (constraint : Option Formula) (session : Session σ) (journal : List Entry) :
    (evaluator.evaluate bound start constraint).answer { session with journal } =
      (evaluator.evaluate bound start constraint).answer session := by
  have beside : Session.Beside { session with journal } session Eq { session with journal } session :=
    Session.beside_self rfl
  exact (EvalM.Parallel.repeats
    (evaluate_parallel evaluator.oracle.agrees_self bound start constraint beside)).answer

namespace Checker

open EvalM

/-- A check with refinement fails exactly if the abstract program has processes that the concrete one
does not, and a trace of the abstract model has to be followed: because its first evaluation is unknown,
or because it is satisfiable and tested again. The failure names the first process that is not known. No
evaluation is started from beyond the bound. -/
theorem check_fails_iff (checker : Checker σ) (refining : checker.property.multiModel = true)
    (dependable : checker.Dependable) (session : Session σ) :
    ∃ first,
      (checker.abstract.evaluate checker.bound checker.settings.startFrom.toNat none).answer
        session = .ok first ∧
      (∀ problem, checker.check.answer session = .error problem ↔
        (checker.concrete.program.processes.length < checker.abstract.program.processes.length ∧
          (first.verdict = .unknown ∨
            first.verdict = .satisfiable ∧ checker.property.doubleTest = true)) ∧
        problem = .decode first.timestep
          (.unknownProcess checker.concrete.program.processes.length
            checker.concrete.program.processes.length)) ∧
      ∃ written, (checker.check.final session).journal = session.journal ++ written ∧
        ∀ entry ∈ written, ∀ start ∈ entry.start?, start ≤ checker.bound := by
  obtain ⟨first, middle, ran⟩ := Evaluator.evaluate_succeeds dependable.abstract
    dependable.abstractUnwritten checker.startFrom_le_bound none
    { session with journal := session.journal ++
      [.note (.abstractRound 0 checker.settings.startFrom.toNat 0)] }
  refine ⟨first, ?_, ?_, check_writes refining session⟩
  · rw [← Evaluator.answer_evaluate_journal, answer_eq_ok_iff.mpr ⟨middle, ran⟩]
  · intro problem
    constructor
    · intro failed
      have more : checker.concrete.program.processes.length <
          checker.abstract.program.processes.length := by
        by_contra fits
        exact (check_succeeds refining dependable (Nat.le_of_not_lt fits) session).ne_error _ failed
      by_cases unknown : first.verdict = .unknown
      · have fails := check_fails_of_refine refining (run_refine_of_unknown ran unknown more)
        exact ⟨⟨more, Or.inl unknown⟩, Except.error.inj (failed.symm.trans fails)⟩
      · by_cases retested : first.verdict = .satisfiable ∧ checker.property.doubleTest = true
        · have fails := check_fails_of_retest refining ran retested.1 retested.2 more
          exact ⟨⟨more, Or.inr retested⟩, Except.error.inj (failed.symm.trans fails)⟩
        · exact absurd failed ((check_succeeds_of_settled refining ran unknown retested).ne_error _)
    · rintro ⟨⟨more, unknown | ⟨satisfiable, twice⟩⟩, rfl⟩
      · exact check_fails_of_refine refining (run_refine_of_unknown ran unknown more)
      · exact check_fails_of_retest refining ran satisfiable twice more

/-- The abstract program has a second process. From timestep 1 on its violation is definite, and it is
tested again. -/
def outnumbered : Checker (Exhaustive × Exhaustive) where
  models :=
    [(ofTasks .wavering .wavering).concrete,
      { (ofTasks .wavering .wavering).abstract with
        program := { processes := [⟨"P0", 2⟩, ⟨"P1", 2⟩] } }]
  property := { multiModel := true, doubleTest := true }
  settings := { bound := 2, startFrom := 1, maxRefinements := 1 }
  nonempty := List.cons_ne_nil _ _
  valid := rfl
  paired _ := Nat.le_refl 2

theorem outnumbered_dependable : outnumbered.Dependable where
  concrete := (ofTasks_concrete_correct .wavering .wavering).reliable
  abstract := (ofTasks_abstract_correct .wavering .wavering).reliable
  concreteUnwritten := rfl
  abstractUnwritten := rfl

theorem check_fails_iff_outnumbered :
    outnumbered.check.answer { oracle := ({}, {}) } = .error (.decode 1 (.unknownProcess 1 1)) := by
  obtain ⟨first, answered, fails, _⟩ :=
    check_fails_iff outnumbered rfl outnumbered_dependable { oracle := ({}, {}) }
  have viewed : ((outnumbered.abstract.evaluate 2 1 none).run' { oracle := ({}, {}) }).map
      (fun outcome => (outcome.verdict, outcome.timestep)) = some (.satisfiable, 1) := by
    decide +kernel
  obtain ⟨outcome, after, ran, seen⟩ := EvalM.exists_run_of_run' viewed
  obtain ⟨satisfiable, timestep⟩ := Prod.mk.inj seen
  cases Except.ok.inj (answered.symm.trans (answer_eq_ok_iff.mpr ⟨after, ran⟩))
  exact (fails _).mpr ⟨⟨by decide, Or.inr ⟨satisfiable, rfl⟩⟩, by rw [timestep]; rfl⟩

end Checker

end Trivalent
