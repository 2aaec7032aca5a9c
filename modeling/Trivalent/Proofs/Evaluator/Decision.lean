import Mathlib.Order.Bounds.Basic
import Trivalent.Proofs.Evaluator.Answers
import Trivalent.Proofs.Oracle.Exhaustive
import Trivalent.Proofs.Trace.Decoding

/-!
With a correct oracle, and with neither a budget nor files to write, an evaluation always comes to an
outcome, and the outcome answers the bounded question: the first timestep of the window at which a
violation is possible, and whether it is definite there.
-/

set_option autoImplicit false

namespace Trivalent

variable {σ : Type}

namespace EvalM

def Succeeds {α : Type} (action : EvalM σ α) (session : Session σ) : Prop :=
  ∃ value after, action.run session = .ok value after

end EvalM

/-- The timesteps of a window at which a violation is possible. -/
def Task.possibleWithin (task : Task) (constraint : Option Formula) (start bound : Nat) : Set Nat :=
  {timestep | start ≤ timestep ∧ timestep ≤ bound ∧ task.Reachable constraint timestep true}

namespace Evaluator

open EvalM

variable {evaluator : Evaluator σ} {constraint : Option Formula}

/-! ### Answers of a correct oracle -/

theorem not_reachable_of_denied (sound : evaluator.oracle.Sound) {timestep : Nat} {phase : Phase}
    (denied : evaluator.Answered constraint timestep phase .unsat) :
    ¬evaluator.task.Reachable constraint timestep phase.polarity := by
  obtain ⟨state, answer⟩ := denied
  rw [Task.reachable_iff]
  exact sound _ state answer

theorem reachable_of_granted (correct : evaluator.oracle.Correct) {timestep : Nat} {phase : Phase}
    (granted : evaluator.Answered constraint timestep phase .sat) :
    evaluator.task.Reachable constraint timestep phase.polarity := by
  obtain ⟨state, answer⟩ := granted
  rw [Task.reachable_iff]
  exact (correct.sat_iff _ state).mp answer

theorem granted_of_shown {timestep : Nat} {phase : Phase} {trace : Trace}
    (shown : evaluator.Shown constraint timestep phase trace) :
    evaluator.Answered constraint timestep phase .sat := by
  obtain ⟨state, _, granted, _, _⟩ := shown
  exact ⟨state, granted⟩

theorem not_answered_unknown (correct : evaluator.oracle.Correct) {timestep : Nat} {phase : Phase}
    {reason : String} : ¬evaluator.Answered constraint timestep phase (.unknown reason) := by
  rintro ⟨state, answer⟩
  rcases correct.decides (Formula.conj (evaluator.task.query constraint timestep phase)) state with
    granted | denied
  · rw [Oracle.checkAll_eq_single, granted] at answer
    cases answer
  · rw [Oracle.checkAll_eq_single, denied] at answer
    cases answer

/-! ### Judgements of a correct oracle -/

theorem response_of_reachable (correct : evaluator.oracle.Correct) {timestep : Nat} (phase : Phase)
    (reachable : evaluator.task.Reachable constraint timestep phase.polarity) (state : σ) :
    ∃ model, evaluator.oracle.response (evaluator.task.query constraint timestep phase) state =
      .ok (.sat, some model) := by
  have granted := (correct.sat_iff _ state).mpr (Task.reachable_iff.mp reachable)
  obtain ⟨model, offered, _⟩ := correct.offersModels _ state granted
  exact ⟨model, Oracle.response_eq_ok_iff.mpr ⟨granted, offered⟩⟩

theorem response_of_unreachable (correct : evaluator.oracle.Correct) {timestep : Nat}
    (phase : Phase) (unreachable : ¬evaluator.task.Reachable constraint timestep phase.polarity)
    (state : σ) :
    ∃ offered, evaluator.oracle.response (evaluator.task.query constraint timestep phase) state =
      .ok (.unsat, offered) := by
  have denied := (correct.decides (Formula.conj (evaluator.task.query constraint timestep phase))
    state).resolve_left fun granted => unreachable (reachable_of_granted correct ⟨state, granted⟩)
  exact ⟨_, Oracle.response_eq_ok_iff.mpr ⟨denied, rfl⟩⟩

/-- Whatever the oracle's state, the timestep comes to this verdict, by two queries. -/
def Certain (evaluator : Evaluator σ) (constraint : Option Formula) (timestep : Nat)
    (verdict : Verdict) : Prop :=
  ∀ judgement, evaluator.Judged constraint timestep judgement →
    ∃ trace, judgement = .ok ⟨some ⟨verdict, trace⟩, 2⟩

section Judgements

variable (correct : evaluator.oracle.Correct) (unlimited : evaluator.budget = none) {timestep : Nat}

include correct unlimited

theorem certain_definite (filed : evaluator.filing .possible timestep .sat = .ok ())
    (filedAgain : evaluator.filing .definite timestep .sat = .ok ())
    (possible : evaluator.task.Reachable constraint timestep true)
    (definite : evaluator.task.Reachable constraint timestep false) :
    evaluator.Certain constraint timestep .satisfiable := by
  intro judgement judged
  obtain ⟨state, rfl⟩ := judged.exists_state unlimited
  obtain ⟨first, granted⟩ := response_of_reachable correct .possible possible state
  simp only [Evaluator.judgement, granted]
  generalize (evaluator.oracle.checkAll _ state).state = later
  obtain ⟨second, grantedAgain⟩ := response_of_reachable correct .definite definite later
  have read := first.decode_eq evaluator.program evaluator.property timestep
  have readAgain := second.decode_eq evaluator.program evaluator.property timestep
  rw [grantedAgain]
  exact ⟨_, (Tells.definite filed filedAgain read readAgain).judge_eq⟩

theorem certain_possible (filed : evaluator.filing .possible timestep .sat = .ok ())
    (filedAgain : evaluator.filing .definite timestep .unsat = .ok ())
    (possible : evaluator.task.Reachable constraint timestep true)
    (indefinite : ¬evaluator.task.Reachable constraint timestep false) :
    evaluator.Certain constraint timestep .unknown := by
  intro judgement judged
  obtain ⟨state, rfl⟩ := judged.exists_state unlimited
  obtain ⟨first, granted⟩ := response_of_reachable correct .possible possible state
  simp only [Evaluator.judgement, granted]
  generalize (evaluator.oracle.checkAll _ state).state = later
  obtain ⟨offered, denied⟩ := response_of_unreachable correct .definite indefinite later
  have read := first.decode_eq evaluator.program evaluator.property timestep
  rw [denied]
  exact ⟨_, (Tells.possible filed filedAgain read).judge_eq⟩

end Judgements

/-! ### Evaluations that return -/

section Reliable

variable (reliable : evaluator.oracle.Reliable)

include reliable

/-- A reliable oracle responds to a query in one of three ways. -/
theorem response_cases (parts : List Formula) (state : σ) :
    (∃ model, evaluator.oracle.response parts state = .ok (.sat, some model)) ∨
      (∃ offered, evaluator.oracle.response parts state = .ok (.unsat, offered)) ∨
      ∃ reason offered, evaluator.oracle.response parts state = .ok (.unknown reason, offered) := by
  obtain ⟨result, answered⟩ := reliable.answers (Formula.conj parts) state
  cases result with
  | sat =>
      obtain ⟨model, offered⟩ := reliable.offers (Formula.conj parts) state answered
      exact Or.inl ⟨model, Oracle.response_eq_ok_iff.mpr ⟨answered, offered⟩⟩
  | unsat => exact Or.inr (Or.inl ⟨_, Oracle.response_eq_ok_iff.mpr ⟨answered, rfl⟩⟩)
  | unknown reason =>
      exact Or.inr (Or.inr ⟨reason, _, Oracle.response_eq_ok_iff.mpr ⟨answered, rfl⟩⟩)

theorem exists_judgement (unwritten : evaluator.dump = none) (constraint : Option Formula)
    (timestep : Nat) (state : σ) :
    ∃ judgement, evaluator.judgement constraint timestep state = .ok judgement := by
  have filed (phase : Phase) (result : SatResult) :
      evaluator.filing phase timestep result = .ok () := by
    unfold filing
    rw [unwritten]
    rfl
  have decoded (model : Model) := model.decode_eq evaluator.program evaluator.property timestep
  rcases response_cases reliable (evaluator.task.query constraint timestep .possible) state with
    ⟨first, granted⟩ | ⟨offered, denied⟩ | ⟨reason, offered, unknown⟩
  · simp only [judgement, granted]
    generalize (evaluator.oracle.checkAll _ state).state = later
    rcases response_cases reliable (evaluator.task.query constraint timestep .definite) later with
      ⟨second, grantedAgain⟩ | ⟨offered, denied⟩ | ⟨reason, offered, unknown⟩
    · rw [grantedAgain]
      exact ⟨_, (Tells.definite (filed ..) (filed ..) (decoded first) (decoded second)).judge_eq⟩
    · rw [denied]
      exact ⟨_, (Tells.possible (filed ..) (filed ..) (decoded first)).judge_eq⟩
    · rw [unknown]
      exact ⟨_, (Tells.unsettled (filed ..) (filed ..) (decoded first)).judge_eq⟩
  · simp only [judgement, denied]
    exact ⟨_, (Tells.cleared (filed ..)).judge_eq⟩
  · simp only [judgement, unknown]
    exact ⟨_, (Tells.undecided (filed ..)).judge_eq⟩

theorem Judged.ne_error (unwritten : evaluator.dump = none) {timestep : Nat}
    {problem : CheckError} : ¬evaluator.Judged constraint timestep (.error problem) := by
  intro judged
  generalize plan : Except.error problem = judgement at judged
  cases judged with
  | overtime _ => cases plan
  | asked state =>
      obtain ⟨judgement, judged⟩ := exists_judgement reliable unwritten constraint timestep state
      rw [judged] at plan
      cases plan

theorem evaluate_succeeds (unwritten : evaluator.dump = none) {start bound : Nat}
    (window : start ≤ bound) (constraint : Option Formula) (session : Session σ) :
    (evaluator.evaluate bound start constraint).Succeeds session := by
  have surveyed := evaluator.evaluate_surveyed window constraint session
  generalize answered : (evaluator.evaluate bound start constraint).answer session = answer
    at surveyed
  cases surveyed with
  | cleared _ =>
      obtain ⟨after, ran⟩ := answer_eq_ok_iff.mp answered
      exact ⟨_, after, ran⟩
  | ended _ leading concludes =>
      cases concludes with
      | found =>
          obtain ⟨after, ran⟩ := answer_eq_ok_iff.mp answered
          exact ⟨_, after, ran⟩
      | failed => exact absurd leading.judged (Judged.ne_error reliable unwritten)

end Reliable

/-! ### The bounded question -/

namespace Accounts

variable {start bound : Nat} {outcome : Outcome}

theorem not_possible_before (accounts : evaluator.Accounts constraint bound start outcome)
    (sound : evaluator.oracle.Sound) {timestep : Nat} (before : timestep < outcome.timestep) :
    timestep ∉ evaluator.task.possibleWithin constraint start bound := by
  rintro ⟨above, _, reachable⟩
  exact not_reachable_of_denied sound (accounts.denied_before above before) reachable

theorem isLeast_of_possible (accounts : evaluator.Accounts constraint bound start outcome)
    (sound : evaluator.oracle.Sound) (above : start ≤ outcome.timestep)
    (possible : evaluator.task.Reachable constraint outcome.timestep true) :
    IsLeast (evaluator.task.possibleWithin constraint start bound) outcome.timestep := by
  refine ⟨⟨above, accounts.le_bound, possible⟩, ?_⟩
  intro timestep member
  by_contra before
  exact accounts.not_possible_before sound (Nat.lt_of_not_le before) member

/-- With a correct oracle and no budget two kinds of outcomes are left: nothing in the window, or the
first possible violation. -/
theorem decision (accounts : evaluator.Accounts constraint bound start outcome)
    (correct : evaluator.oracle.Correct) (unlimited : evaluator.budget = none) :
    (outcome.verdict = .noErrorFound ∧ outcome.timestep = bound ∧
      evaluator.task.possibleWithin constraint start bound = ∅) ∨
    (IsLeast (evaluator.task.possibleWithin constraint start bound) outcome.timestep ∧
      ((outcome.verdict = .satisfiable ∧
          evaluator.task.Reachable constraint outcome.timestep false) ∨
        (outcome.verdict = .unknown ∧
          ¬evaluator.task.Reachable constraint outcome.timestep false))) := by
  have least := accounts.isLeast_of_possible correct.sound
  cases accounts with
  | cleared verdict place _ cleared =>
      refine Or.inl ⟨verdict, place, Set.eq_empty_of_forall_notMem ?_⟩
      rintro timestep ⟨above, below, reachable⟩
      exact not_reachable_of_denied correct.sound (cleared timestep above below) reachable
  | found above _ _ grounds =>
      refine Or.inr ?_
      generalize outcome.verdict = verdict at grounds ⊢
      generalize outcome.trace = trace at grounds
      cases grounds with
      | definite granted shown =>
          refine ⟨least above (reachable_of_granted correct granted), Or.inl ⟨rfl, ?_⟩⟩
          exact reachable_of_granted correct (granted_of_shown shown)
      | possible shown denied =>
          refine ⟨least above (reachable_of_granted correct (granted_of_shown shown)), Or.inr ⟨rfl, ?_⟩⟩
          exact not_reachable_of_denied correct.sound denied
      | overtime limited => exact absurd unlimited limited
      | undecided unknown => exact absurd unknown (not_answered_unknown correct)
      | unsettled _ unknown => exact absurd unknown (not_answered_unknown correct)

end Accounts

/-- An evaluation returns, and its outcome decides the bounded question: without a possible violation
in the window no error is found up to the bound, and otherwise the outcome stands at the first one and
is satisfiable or unknown as the violation there is definite or not. -/
theorem evaluate_decides (evaluator : Evaluator σ) (correct : evaluator.oracle.Correct)
    (unlimited : evaluator.budget = none) (unwritten : evaluator.dump = none)
    (constraint : Option Formula) {start bound : Nat} (window : start ≤ bound)
    (session : Session σ) :
    ∃ outcome after, (evaluator.evaluate bound start constraint).run session = .ok outcome after ∧
      (evaluator.task.possibleWithin constraint start bound = ∅ →
        outcome.verdict = .noErrorFound ∧ outcome.timestep = bound) ∧
      ((evaluator.task.possibleWithin constraint start bound).Nonempty →
        IsLeast (evaluator.task.possibleWithin constraint start bound) outcome.timestep ∧
        (evaluator.task.Reachable constraint outcome.timestep false →
          outcome.verdict = .satisfiable) ∧
        (¬evaluator.task.Reachable constraint outcome.timestep false →
          outcome.verdict = .unknown)) := by
  obtain ⟨outcome, after, ran⟩ :=
    evaluate_succeeds correct.reliable unwritten window constraint session
  refine ⟨outcome, after, ran, ?_⟩
  rcases (evaluate_accounts ran).2.decision correct unlimited with
    ⟨verdict, place, nothing⟩ | ⟨least, answer⟩
  · refine ⟨fun _ => ⟨verdict, place⟩, fun possible => ?_⟩
    rw [nothing] at possible
    exact absurd possible Set.not_nonempty_empty
  · refine ⟨fun nothing => ?_, fun _ => ⟨least, ?_, ?_⟩⟩
    · exact absurd least.1 (nothing ▸ Set.notMem_empty outcome.timestep)
    · intro definite
      rcases answer with ⟨verdict, _⟩ | ⟨_, indefinite⟩
      · exact verdict
      · exact absurd definite indefinite
    · intro indefinite
      rcases answer with ⟨_, definite⟩ | ⟨verdict, _⟩
      · exact absurd definite indefinite
      · exact verdict

end Evaluator

/-! ### A small model

One process with two locations starts at location 0 and goes anywhere. At location 1 the property may
be violated. -/

def Task.walk : Task where
  initial := Location.encode 0 0 0 1
  transition _ := .const true
  violation timestep :=
    Formula.conj [Location.encode timestep 0 1 1, Atom.status.formula true]

def Evaluator.single (oracle : Oracle σ) (task : Task) : Evaluator σ :=
  { program := { processes := [⟨"P0", 2⟩] }, property := {}, task, oracle }

theorem Location.eval_encode_digit {timestep process location : Nat} {assignment : Assignment} :
    (Location.encode timestep process location 1).eval assignment = true ↔
      assignment.read (Atom.location timestep process 0).name = location.testBit 0 := by
  simp only [eval_encode_iff, Nat.lt_one_iff, forall_eq, Nat.sub_self]

theorem Task.walk_violates_iff {timestep : Nat} {assignment : Assignment} :
    walk.Violates none timestep assignment ↔
      assignment.read (Atom.location 0 0 0).name = false ∧
        assignment.read (Atom.location timestep 0 0).name = true ∧ assignment.status = true := by
  rw [violates_none_iff]
  simp only [walk, Formula.eval_conj_iff, List.forall_mem_cons, List.not_mem_nil, false_implies,
    implies_true, and_true, true_and, Location.eval_encode_digit, Nat.zero_testBit,
    Nat.testBit_one_zero, Atom.formula, Formula.eval, Literal.holds_iff, Atom.literal,
    Assignment.status]

def Assignment.leaving : Assignment := fun name => some (name ≠ (Atom.location 0 0 0).name)

theorem Task.walk_violates_leaving : walk.Violates none 1 .leaving := by
  rw [walk_violates_iff]
  decide +kernel

theorem Assignment.status_leaving : leaving.status = true := by decide +kernel

theorem Evaluator.evaluate_decides_walk :
    ∃ outcome after,
      ((Evaluator.single Exhaustive.oracle .walk).evaluate 3 0 none).run { oracle := {} } =
        .ok outcome after ∧
      outcome.verdict = .unknown ∧ outcome.timestep = 1 := by
  have notAtStart : ¬Task.walk.Reachable none 0 true := by
    rintro ⟨assignment, violates, _⟩
    obtain ⟨initial, there, _⟩ := Task.walk_violates_iff.mp violates
    rw [there] at initial
    cases initial
  have afterOneStep : Task.walk.Reachable none 1 true :=
    ⟨.leaving, Task.walk_violates_leaving, Assignment.status_leaving⟩
  have neverDefinite : ∀ timestep, ¬Task.walk.Reachable none timestep false := by
    rintro timestep ⟨assignment, violates, status⟩
    rw [(Task.walk_violates_iff.mp violates).2.2] at status
    cases status
  obtain ⟨outcome, after, ran, _, found⟩ := evaluate_decides (single Exhaustive.oracle .walk)
    Exhaustive.oracle_correct rfl rfl none (Nat.zero_le 3) { oracle := {} }
  obtain ⟨least, _, unknown⟩ := found ⟨1, by decide, by decide, afterOneStep⟩
  refine ⟨outcome, after, ran, unknown (neverDefinite outcome.timestep), ?_⟩
  have upto : outcome.timestep ≤ 1 := least.2 ⟨by decide, by decide, afterOneStep⟩
  rcases Nat.le_one_iff_eq_zero_or_eq_one.mp upto with atStart | atOne
  · exact absurd least.1.2.2 (atStart ▸ notAtStart)
  · exact atOne

end Trivalent
