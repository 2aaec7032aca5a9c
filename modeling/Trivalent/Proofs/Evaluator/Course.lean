import Trivalent.Proofs.Evaluator.Interview

/-!
The course of an evaluation: the questions asked, the reports made and how it halts, as the oracle and
the clock make it. From timestep to timestep a course goes on while the oracle denies a violation; it
stops for the budget, for an error or with a finding, and otherwise it is exhausted at the bound. Laid
out, a course is a sweep of denied timesteps and what comes after it (`Course.sweeps`).
-/

set_option autoImplicit false

namespace Trivalent

variable {σ : Type}

/-- Where an evaluation halts, how many transitions are unrolled by then, and why it halts. -/
structure Halt where
  timestep : Nat
  extensions : Nat
  result : Except CheckError Finding

/-- What an evaluation that halts so answers, after so much time and so many queries. -/
def Halt.answer (halt : Halt) (elapsed : Nanoseconds) (queries : Nat) : Except CheckError Outcome :=
  halt.result.map fun finding =>
    { verdict := finding.verdict
      timestep := halt.timestep
      trace := finding.trace
      elapsed
      queries
      extensions := halt.extensions }

namespace Evaluator

section Courses

variable (evaluator : Evaluator σ) (constraint : Option Formula)

/-- What is left of the response to a question after the files of its query. -/
def hears (question : Question) (moment : Moment σ) : Except CheckError (SatResult × Option Model) :=
  evaluator.hear question.phase question.timestep (evaluator.respond constraint question moment)

/-- The report of a question, if it was answered. -/
def records (question : Question) (moment : Moment σ) : List Report :=
  ((evaluator.inquire constraint question moment).record? evaluator.label).toList.map .query

/-- The last questions and reports, all of one timestep, of an evaluation that began at a time. -/
inductive Stops (began : Nanoseconds) (timestep : Nat) (moment : Moment σ) :
    List Question → List Report → Except CheckError Finding → Prop where
  | overtime {seconds : Nat} :
      seconds ∈ evaluator.budget → .ofSeconds seconds ≤ moment.now - began →
      Stops began timestep moment [] [] (.ok ⟨.inconclusive
        s!"{evaluator.label} used up its {seconds}s budget before timestep {timestep}", none⟩)
  | refused {problem : CheckError} :
      ¬evaluator.OutOfTime (moment.now - began) →
      evaluator.hears constraint (.possible timestep) moment = .error problem →
      Stops began timestep moment [.possible timestep]
        (evaluator.records constraint (.possible timestep) moment) (.error problem)
  | undecided {reason : String} {offered : Option Model} :
      ¬evaluator.OutOfTime (moment.now - began) →
      evaluator.hears constraint (.possible timestep) moment = .ok (.unknown reason, offered) →
      Stops began timestep moment [.possible timestep]
        (evaluator.records constraint (.possible timestep) moment)
        (.ok ⟨.inconclusive reason, none⟩)
  | modelless :
      ¬evaluator.OutOfTime (moment.now - began) →
      evaluator.hears constraint (.possible timestep) moment = .ok (.sat, none) →
      Stops began timestep moment [.possible timestep]
        (evaluator.records constraint (.possible timestep) moment) (.error (.missingModel timestep))
  | settled {model : Model} {trace : Trace} :
      ¬evaluator.OutOfTime (moment.now - began) →
      evaluator.hears constraint (.possible timestep) moment = .ok (.sat, some model) →
      model.decode evaluator.program evaluator.property timestep = .ok trace →
      Stops began timestep moment [.possible timestep, .definite timestep]
        (evaluator.records constraint (.possible timestep) moment ++
          .trace evaluator.label timestep trace ::
            evaluator.records constraint (.definite timestep)
              (evaluator.later constraint (.possible timestep) moment))
        (evaluator.settle timestep trace (evaluator.hears constraint (.definite timestep)
          (evaluator.later constraint (.possible timestep) moment)))

/-- The questions and reports from a timestep on, and how the evaluation halts. -/
inductive Course (bound : Nat) (began : Nanoseconds) :
    Nat → Moment σ → List Question → List Report → Halt → Prop where
  | exhausted {timestep : Nat} {moment : Moment σ} :
      timestep = bound + 1 →
      Course bound began timestep moment [] [] ⟨bound, bound + 1, .ok ⟨.noErrorFound, none⟩⟩
  | stopped {timestep : Nat} {moment : Moment σ} {questions : List Question}
      {reports : List Report} {result : Except CheckError Finding} :
      timestep ≤ bound → Stops evaluator constraint began timestep moment questions reports result →
      Course bound began timestep moment questions reports ⟨timestep, timestep, result⟩
  | cleared {timestep : Nat} {moment : Moment σ} {offered : Option Model}
      {questions : List Question} {reports : List Report} {halt : Halt} :
      timestep ≤ bound → ¬evaluator.OutOfTime (moment.now - began) →
      evaluator.hears constraint (.possible timestep) moment = .ok (.unsat, offered) →
      Course bound began (timestep + 1) (evaluator.later constraint (.possible timestep) moment)
        questions reports halt →
      Course bound began timestep moment (.possible timestep :: questions)
        (evaluator.records constraint (.possible timestep) moment ++ reports) halt

end Courses

variable {evaluator : Evaluator σ} {constraint : Option Formula}

section Replies

variable {question : Question} {moment : Moment σ}

theorem respond_of_hears {heard : SatResult × Option Model}
    (hears : evaluator.hears constraint question moment = .ok heard) :
    evaluator.respond constraint question moment = .ok heard :=
  (hear_eq_ok_iff.mp hears).1

theorem hears_of_respond (unwritten : evaluator.dump = none) {given : SatResult × Option Model}
    (responded : evaluator.respond constraint question moment = .ok given) :
    evaluator.hears constraint question moment = .ok given := by
  refine hear_eq_ok_iff.mpr ⟨responded, ?_⟩
  rw [filing, unwritten]
  rfl

end Replies

/-! ### Courses laid out -/

section Sweeps

variable (evaluator constraint) in
/-- Every timestep of the stretch is entered in time, and a violation is denied there. -/
def Swept (began : Nanoseconds) (start stop : Nat) (moment : Moment σ) : Prop :=
  ∀ timestep, start ≤ timestep → timestep < stop →
    ¬evaluator.OutOfTime
        ((evaluator.reached constraint (sweep start timestep) moment).now - began) ∧
      ∃ offered, evaluator.hears constraint (.possible timestep)
        (evaluator.reached constraint (sweep start timestep) moment) = .ok (.unsat, offered)

variable {bound start : Nat} {began : Nanoseconds} {moment : Moment σ}

theorem swept_self (timestep : Nat) :
    evaluator.Swept constraint began timestep timestep moment := by
  intro other above below
  omega

theorem Swept.cons {stop : Nat} {offered : Option Model}
    (early : ¬evaluator.OutOfTime (moment.now - began))
    (denied : evaluator.hears constraint (.possible start) moment = .ok (.unsat, offered))
    (swept : evaluator.Swept constraint began (start + 1) stop
      (evaluator.later constraint (.possible start) moment)) :
    evaluator.Swept constraint began start stop moment := by
  intro timestep above below
  rcases Nat.eq_or_lt_of_le above with rfl | later
  · rw [sweep_self]
    exact ⟨early, offered, denied⟩
  · rw [reached_sweep_of_lt later]
    exact swept timestep later below

theorem Swept.denied {stop : Nat} (swept : evaluator.Swept constraint began start stop moment) :
    ∀ inquiry ∈ evaluator.interview constraint (sweep start stop) moment,
      ∃ offered, inquiry.exchange = .answered .unsat offered := by
  intro inquiry member
  obtain ⟨timestep, above, below, rfl⟩ := mem_interview_sweep_iff.mp member
  obtain ⟨_, offered, heard⟩ := swept timestep above below
  exact ⟨offered, exchange_inquire_iff.mpr (respond_of_hears heard)⟩

/-- A course sweeps the window up to the timestep at which it stops, or to the end. -/
theorem Course.sweeps {questions : List Question} {reports : List Report} {halt : Halt}
    (course : evaluator.Course constraint bound began start moment questions reports halt) :
    (questions = sweep start (bound + 1) ∧ halt = ⟨bound, bound + 1, .ok ⟨.noErrorFound, none⟩⟩ ∧
      evaluator.Swept constraint began start (bound + 1) moment) ∨
    ∃ timestep last ending result,
      start ≤ timestep ∧ timestep ≤ bound ∧ questions = sweep start timestep ++ last ∧
      halt = ⟨timestep, timestep, result⟩ ∧
      evaluator.Swept constraint began start timestep moment ∧
      evaluator.Stops constraint began timestep
        (evaluator.reached constraint (sweep start timestep) moment) last ending result := by
  induction course with
  | exhausted passed =>
      subst passed
      exact Or.inl ⟨(sweep_self _).symm, rfl, swept_self _⟩
  | @stopped timestep moment questions reports result within stops =>
      refine Or.inr ⟨timestep, questions, reports, result, Nat.le_refl _, within, ?_, rfl,
        swept_self _, ?_⟩
      · rw [sweep_self, List.nil_append]
      · rw [sweep_self]
        exact stops
  | @cleared timestep moment offered questions reports halt within early denied _ ih =>
      rcases ih with ⟨all, halted, swept⟩ |
        ⟨place, last, ending, result, above, below, all, halted, swept, stops⟩
      · refine Or.inl ⟨?_, halted, .cons early denied swept⟩
        rw [all, ← sweep_of_lt (Nat.lt_succ_of_le within)]
      · refine Or.inr ⟨place, last, ending, result, Nat.le_of_succ_le above, below, ?_, halted,
          .cons early denied swept, ?_⟩
        · rw [all, sweep_of_lt above, List.cons_append]
        · rw [reached_sweep_of_lt above]
          exact stops

end Sweeps

end Evaluator

end Trivalent
