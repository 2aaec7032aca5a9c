import Trivalent.Proofs.Evaluator.Execution

/-!
What an evaluation comes to, as a matter of the oracle's responses alone. `judge` tells from the
responses to the two queries of a timestep what becomes of the timestep: an error, a finding or
nothing. An evaluation comes to the judgement of the first timestep that is not cleared, and counts one
query for every timestep before it (`evaluate_surveyed`).
-/

set_option autoImplicit false

namespace Trivalent

variable {σ : Type}

/-- What becomes of a timestep: a finding or none, and the number of queries it takes to tell. -/
structure Judgement where
  finding : Option Finding
  queries : Nat

namespace Evaluator

section Plans

variable (evaluator : Evaluator σ)

/-- The judgement of a timestep whose first response is heard. The second query counts only if the
first one was satisfiable. -/
def judgeHeard (timestep : Nat) (definite : Response) :
    SatResult × Option Model → Except CheckError Judgement
  | (.unsat, _) => return ⟨none, 1⟩
  | (.unknown reason, _) => return ⟨some ⟨.inconclusive reason, none⟩, 1⟩
  | (.sat, offered) => do
      let trace ← evaluator.traceOf timestep offered
      let finding ← evaluator.settle timestep trace (evaluator.hear .definite timestep definite)
      return ⟨some finding, 2⟩

/-- The judgement of a timestep by the responses to its two queries. -/
def judge (timestep : Nat) (possible definite : Response) : Except CheckError Judgement :=
  evaluator.hear .possible timestep possible >>= evaluator.judgeHeard timestep definite

variable (constraint : Option Formula)

/-- The judgement of a timestep that an oracle in this state leads to. -/
def judgement (timestep : Nat) (state : σ) : Except CheckError Judgement :=
  let possible := evaluator.task.query constraint timestep .possible
  let definite := evaluator.task.query constraint timestep .definite
  evaluator.judge timestep (evaluator.oracle.response possible state)
    (evaluator.oracle.response definite (evaluator.oracle.checkAll possible state).state)

/-- A judgement that an evaluation can come to at a timestep. -/
inductive Judged (timestep : Nat) : Except CheckError Judgement → Prop where
  | overtime {seconds : Nat} :
      seconds ∈ evaluator.budget →
      Judged timestep (.ok ⟨some ⟨.inconclusive
        s!"{evaluator.label} used up its {seconds}s budget before timestep {timestep}", none⟩, 0⟩)
  | asked (state : σ) : Judged timestep (evaluator.judgement constraint timestep state)

def Cleared (start stop : Nat) : Prop :=
  ∀ timestep, start ≤ timestep → timestep < stop →
    evaluator.Judged constraint timestep (.ok ⟨none, 1⟩)

end Plans

variable (evaluator : Evaluator σ) {constraint : Option Formula}

/-! ### Judgements without an error -/

/-- The responses and files that lead to a judgement. -/
inductive Tells (timestep : Nat) : Response → Response → Judgement → Prop where
  | cleared {offered : Option Model} {definite : Response} :
      evaluator.filing .possible timestep .unsat = .ok () →
      Tells timestep (.ok (.unsat, offered)) definite ⟨none, 1⟩
  | undecided {reason : String} {offered : Option Model} {definite : Response} :
      evaluator.filing .possible timestep (.unknown reason) = .ok () →
      Tells timestep (.ok (.unknown reason, offered)) definite
        ⟨some ⟨.inconclusive reason, none⟩, 1⟩
  | definite {first second : Model} {discarded trace : Trace} :
      evaluator.filing .possible timestep .sat = .ok () →
      evaluator.filing .definite timestep .sat = .ok () →
      first.decode evaluator.program evaluator.property timestep = .ok discarded →
      second.decode evaluator.program evaluator.property timestep = .ok trace →
      Tells timestep (.ok (.sat, some first)) (.ok (.sat, some second))
        ⟨some ⟨.satisfiable, some trace⟩, 2⟩
  | possible {model : Model} {offered : Option Model} {trace : Trace} :
      evaluator.filing .possible timestep .sat = .ok () →
      evaluator.filing .definite timestep .unsat = .ok () →
      model.decode evaluator.program evaluator.property timestep = .ok trace →
      Tells timestep (.ok (.sat, some model)) (.ok (.unsat, offered))
        ⟨some ⟨.unknown, some trace⟩, 2⟩
  | unsettled {reason : String} {model : Model} {offered : Option Model} {trace : Trace} :
      evaluator.filing .possible timestep .sat = .ok () →
      evaluator.filing .definite timestep (.unknown reason) = .ok () →
      model.decode evaluator.program evaluator.property timestep = .ok trace →
      Tells timestep (.ok (.sat, some model)) (.ok (.unknown reason, offered))
        ⟨some ⟨.inconclusive reason, some trace⟩, 2⟩

variable {evaluator} {timestep : Nat}

theorem judgeHeard_of_decoded {model : Model} {trace : Trace}
    (decoded : model.decode evaluator.program evaluator.property timestep = .ok trace)
    (definite : Response) :
    evaluator.judgeHeard timestep definite (.sat, some model) =
      (evaluator.settle timestep trace (evaluator.hear .definite timestep definite)).map
        fun finding => ⟨some finding, 2⟩ := by
  rw [judgeHeard, traceOf_eq_ok_iff.mpr ⟨model, rfl, decoded⟩]
  change (evaluator.settle timestep trace (evaluator.hear .definite timestep definite) >>=
    fun finding => pure (⟨some finding, 2⟩ : Judgement)) = _
  cases evaluator.settle timestep trace (evaluator.hear .definite timestep definite) <;> rfl

theorem tells_of_judge {possible definite : Response} {judgement : Judgement}
    (judged : evaluator.judge timestep possible definite = .ok judgement) :
    evaluator.Tells timestep possible definite judgement := by
  obtain ⟨⟨result, offered⟩, heard, rest⟩ := bind_eq_ok_iff.mp judged
  obtain ⟨rfl, filed⟩ := hear_eq_ok_iff.mp heard
  cases result with
  | unsat =>
      cases rest
      exact .cleared filed
  | unknown reason =>
      cases rest
      exact .undecided filed
  | sat =>
      obtain ⟨trace, traced, later⟩ := bind_eq_ok_iff.mp rest
      obtain ⟨model, rfl, decoded⟩ := traceOf_eq_ok_iff.mp traced
      obtain ⟨finding, settled, same⟩ := bind_eq_ok_iff.mp later
      cases same
      obtain ⟨⟨again, offeredAgain⟩, heardAgain, ending⟩ := bind_eq_ok_iff.mp settled
      obtain ⟨rfl, filedAgain⟩ := hear_eq_ok_iff.mp heardAgain
      cases again with
      | sat =>
          obtain ⟨second, tracedAgain, same⟩ := bind_eq_ok_iff.mp ending
          obtain ⟨shown, rfl, decodedAgain⟩ := traceOf_eq_ok_iff.mp tracedAgain
          cases same
          exact .definite filed filedAgain decoded decodedAgain
      | unsat =>
          cases ending
          exact .possible filed filedAgain decoded
      | unknown reason =>
          cases ending
          exact .unsettled filed filedAgain decoded

theorem Tells.judge_eq {possible definite : Response} {judgement : Judgement}
    (tells : evaluator.Tells timestep possible definite judgement) :
    evaluator.judge timestep possible definite = .ok judgement := by
  refine bind_eq_ok_iff.mpr ?_
  cases tells with
  | cleared filed => exact ⟨_, hear_of_filed filed _, rfl⟩
  | undecided filed => exact ⟨_, hear_of_filed filed _, rfl⟩
  | definite filed filedAgain read readAgain =>
      refine ⟨_, hear_of_filed filed _, ?_⟩
      rw [judgeHeard_of_decoded read, hear_of_filed filedAgain, settle_granted readAgain]
      rfl
  | possible filed filedAgain read =>
      refine ⟨_, hear_of_filed filed _, ?_⟩
      rw [judgeHeard_of_decoded read, hear_of_filed filedAgain]
      rfl
  | unsettled filed filedAgain read =>
      refine ⟨_, hear_of_filed filed _, ?_⟩
      rw [judgeHeard_of_decoded read, hear_of_filed filedAgain]
      rfl

theorem Tells.verdict_ne {possible definite : Response} {finding : Finding} {queries : Nat}
    (tells : evaluator.Tells timestep possible definite ⟨some finding, queries⟩) :
    finding.verdict ≠ .noErrorFound := by
  cases tells <;> nofun

theorem Judged.exists_state (unlimited : evaluator.budget = none)
    {judgement : Except CheckError Judgement}
    (judged : evaluator.Judged constraint timestep judgement) :
    ∃ state, evaluator.judgement constraint timestep state = judgement := by
  cases judged with
  | overtime within =>
      rw [unlimited] at within
      cases within
  | asked state => exact ⟨state, rfl⟩

theorem Judged.verdict_ne {finding : Finding} {queries : Nat}
    (judged : evaluator.Judged constraint timestep (.ok ⟨some finding, queries⟩)) :
    finding.verdict ≠ .noErrorFound := by
  generalize plan : Except.ok _ = judgement at judged
  cases judged with
  | overtime _ =>
      cases plan
      nofun
  | asked state => exact (tells_of_judge plan.symm).verdict_ne

/-! ### Whole evaluations -/

section Surveys

variable (evaluator) (constraint)

/-- The timestep with this judgement comes after cleared ones only. -/
structure Leading (start timestep : Nat) (judgement : Except CheckError Judgement) : Prop where
  start_le : start ≤ timestep
  cleared : evaluator.Cleared constraint start timestep
  judged : evaluator.Judged constraint timestep judgement

/-- The answer of an evaluation that ends at a timestep with this judgement. -/
inductive Concludes (start timestep : Nat) :
    Except CheckError Judgement → Except CheckError Outcome → Prop where
  | failed {problem : CheckError} : Concludes start timestep (.error problem) (.error problem)
  | found {finding : Finding} {queries : Nat} {elapsed : Nanoseconds} :
      Concludes start timestep (.ok ⟨some finding, queries⟩) (.ok {
        verdict := finding.verdict
        timestep
        trace := finding.trace
        elapsed
        queries := timestep - start + queries
        extensions := timestep })

/-- What an evaluation of a window answers. -/
inductive Surveyed (bound start : Nat) : Except CheckError Outcome → Prop where
  | ended {timestep : Nat} {judgement : Except CheckError Judgement}
      {answer : Except CheckError Outcome} :
      timestep ≤ bound → evaluator.Leading constraint start timestep judgement →
      Concludes start timestep judgement answer → Surveyed bound start answer
  | cleared {elapsed : Nanoseconds} :
      evaluator.Cleared constraint start (bound + 1) →
      Surveyed bound start (.ok {
        verdict := .noErrorFound
        timestep := bound
        elapsed
        queries := bound + 1 - start
        extensions := bound + 1 })

end Surveys

variable {began : Nanoseconds} {moment : Moment σ}

theorem judged_of_hears (moment : Moment σ) :
    evaluator.Judged constraint timestep
      (evaluator.hears constraint (.possible timestep) moment >>=
        evaluator.judgeHeard timestep (evaluator.respond constraint (.definite timestep)
          (evaluator.later constraint (.possible timestep) moment))) :=
  .asked moment.oracle

theorem Swept.cleared {start stop : Nat}
    (swept : evaluator.Swept constraint began start stop moment) :
    evaluator.Cleared constraint start stop := by
  intro timestep above below
  obtain ⟨_, offered, denied⟩ := swept timestep above below
  have judged : evaluator.Judged constraint timestep _ :=
    judged_of_hears (evaluator.reached constraint (sweep start timestep) moment)
  rw [denied] at judged
  exact judged

theorem Stops.judged {questions : List Question} {reports : List Report}
    {result : Except CheckError Finding}
    (stops : evaluator.Stops constraint began timestep moment questions reports result) :
    evaluator.Judged constraint timestep
      (result.map fun finding => ⟨some finding, questions.length⟩) := by
  have judged : evaluator.Judged constraint timestep _ := judged_of_hears moment
  cases stops with
  | overtime limited _ => exact .overtime limited
  | refused _ failed =>
      rw [failed] at judged
      exact judged
  | undecided _ unknown =>
      rw [unknown] at judged
      exact judged
  | modelless _ missing =>
      rw [missing] at judged
      exact judged
  | @settled model _ _ granted decoded =>
      rw [granted] at judged
      have heard : evaluator.Judged constraint timestep
          (evaluator.judgeHeard timestep (evaluator.respond constraint (.definite timestep)
            (evaluator.later constraint (.possible timestep) moment)) (.sat, some model)) := judged
      rw [judgeHeard_of_decoded decoded] at heard
      exact heard

theorem Course.surveyed {bound start : Nat} {questions : List Question} {reports : List Report}
    {halt : Halt}
    (course : evaluator.Course constraint bound began start moment questions reports halt)
    (elapsed : Nanoseconds) :
    evaluator.Surveyed constraint bound start (halt.answer elapsed questions.length) := by
  rcases course.sweeps with ⟨rfl, rfl, swept⟩ |
    ⟨timestep, last, _, result, above, below, rfl, rfl, swept, stops⟩
  · rw [length_sweep]
    exact .cleared swept.cleared
  · have leading := Leading.mk above swept.cleared stops.judged
    rw [List.length_append, length_sweep]
    cases result with
    | error problem => exact .ended below leading .failed
    | ok finding => exact .ended below leading .found

theorem evaluate_surveyed {bound start : Nat} (window : start ≤ bound)
    (constraint : Option Formula) (session : Session σ) :
    evaluator.Surveyed constraint bound start
      ((evaluator.evaluate bound start constraint).answer session) := by
  obtain ⟨questions, reports, halt, course, follows⟩ :=
    evaluator.evaluate_course window constraint session
  rw [follows.answer, Nat.zero_add]
  exact course.surveyed _

end Evaluator

end Trivalent
