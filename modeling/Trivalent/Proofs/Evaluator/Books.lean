import Trivalent.Oracle.Bench
import Trivalent.Proofs.Evaluator.Decision

/-!
The books of an evaluation without files. Whatever the oracle answers, every query that is answered is
reported once and in order, the trace of a possible violation right after its query, and the outcome
last; an evaluation that fails reports no outcome. The counts of an outcome say where the evaluation
stopped and for what reason (`evaluate_keeps_books`).
-/

set_option autoImplicit false

namespace Trivalent

variable {σ : Type}

/-- What came of the query for a possible violation at a timestep, if it was asked. -/
def possibleAt (timestep : Nat) (inquiries : List Inquiry) : Option Exchange :=
  (inquiries.find? fun inquiry => inquiry.timestep = timestep ∧ inquiry.phase = .possible).map
    fun inquiry => inquiry.exchange

theorem possibleAt_append_of_ne {timestep : Nat} {before : List Inquiry}
    (elsewhere : ∀ inquiry ∈ before, inquiry.timestep ≠ timestep) (rest : List Inquiry) :
    possibleAt timestep (before ++ rest) = possibleAt timestep rest := by
  have skipped : (before.find? fun inquiry =>
      inquiry.timestep = timestep ∧ inquiry.phase = .possible) = none := by
    rw [List.find?_eq_none]
    intro inquiry member found
    exact elsewhere inquiry member (of_decide_eq_true found).1
  rw [possibleAt, List.find?_append, skipped, Option.none_or]
  rfl

theorem possibleAt_cons {timestep : Nat} {inquiry : Inquiry} (place : inquiry.timestep = timestep)
    (phase : inquiry.phase = .possible) (rest : List Inquiry) :
    possibleAt timestep (inquiry :: rest) = some inquiry.exchange := by
  simp [possibleAt, place, phase]

theorem exists_of_possibleAt {timestep : Nat} {inquiries : List Inquiry} {exchange : Exchange}
    (found : possibleAt timestep inquiries = some exchange) :
    ∃ inquiry ∈ inquiries, inquiry.exchange = exchange := by
  obtain ⟨inquiry, present, same⟩ := Option.map_eq_some_iff.mp found
  exact ⟨inquiry, List.mem_of_find?_eq_some present, same⟩

namespace Evaluator

open EvalM

/-- The trace that is reported of a query: it is read from the model that shows a possible
violation. -/
def shown? (evaluator : Evaluator σ) (inquiry : Inquiry) : Option Trace :=
  match inquiry.phase, inquiry.exchange with
  | .possible, .answered .sat (some model) =>
      (model.decode evaluator.program evaluator.property inquiry.timestep).toOption
  | _, _ => none

/-- What is reported of a query. -/
def reportsOf (evaluator : Evaluator σ) (inquiry : Inquiry) : List Report :=
  (inquiry.record? evaluator.label).toList.map .query ++
    (evaluator.shown? inquiry).toList.map (.trace evaluator.label inquiry.timestep)

/-- The outcome of an evaluation of a window, and the queries behind it. -/
structure Balances (evaluator : Evaluator σ) (bound start : Nat) (inquiries : List Inquiry)
    (outcome : Outcome) : Prop where
  start_le : start ≤ outcome.timestep
  le_bound : outcome.timestep ≤ bound
  exhausted : outcome.verdict = .noErrorFound →
    outcome.timestep = bound ∧ outcome.queries = bound - start + 1 ∧
      outcome.extensions = bound + 1 ∧ outcome.trace = none
  extensions : outcome.verdict ≠ .noErrorFound → outcome.extensions = outcome.timestep
  /-- At the last timestep a violation is possible, or the oracle cannot tell, or time is up. -/
  queries : outcome.verdict ≠ .noErrorFound →
    ((∃ offered, possibleAt outcome.timestep inquiries = some (.answered .sat offered)) ∧
      outcome.queries = outcome.timestep - start + 2) ∨
    ((∃ reason offered,
        possibleAt outcome.timestep inquiries = some (.answered (.unknown reason) offered)) ∧
      outcome.queries = outcome.timestep - start + 1) ∨
    (possibleAt outcome.timestep inquiries = none ∧ evaluator.OutOfTime outcome.elapsed ∧
      outcome.queries = outcome.timestep - start)
  trace_iff : outcome.trace.isSome ↔
    ∃ offered, possibleAt outcome.timestep inquiries = some (.answered .sat offered)
  states : ∀ trace ∈ outcome.trace, trace.states.length = outcome.timestep + 1

variable {evaluator : Evaluator σ} {constraint : Option Formula} {timestep : Nat}

/-! ### Reports -/

theorem reportsOf_inquire {question : Question} {moment : Moment σ}
    (quiet : question.phase = .possible → ∀ model,
      evaluator.respond constraint question moment ≠ .ok (.sat, some model)) :
    evaluator.reportsOf (evaluator.inquire constraint question moment) =
      evaluator.records constraint question moment := by
  have nothing : evaluator.shown? (evaluator.inquire constraint question moment) = none := by
    unfold shown?
    split
    · rename_i possible granted
      exact absurd (exchange_inquire_iff.mp granted) (quiet possible _)
    · rfl
  rw [reportsOf, nothing]
  exact List.append_nil _

theorem shown?_inquire {moment : Moment σ} {model : Model} {trace : Trace}
    (granted : evaluator.respond constraint (.possible timestep) moment = .ok (.sat, some model))
    (decoded : model.decode evaluator.program evaluator.property timestep = .ok trace) :
    evaluator.shown? (evaluator.inquire constraint (.possible timestep) moment) = some trace := by
  have possible : (evaluator.inquire constraint (.possible timestep) moment).phase = .possible := rfl
  have here : (evaluator.inquire constraint (.possible timestep) moment).timestep = timestep := rfl
  simp only [shown?, possible, exchange_inquire_iff.mpr granted, here, decoded]
  rfl

section Unwritten

variable (unwritten : evaluator.dump = none)

include unwritten

theorem Stops.reports_eq {began : Nanoseconds} {moment : Moment σ} {questions : List Question}
    {reports : List Report} {result : Except CheckError Finding}
    (stops : evaluator.Stops constraint began timestep moment questions reports result) :
    reports = (evaluator.interview constraint questions moment).flatMap evaluator.reportsOf := by
  cases stops with
  | overtime _ _ => rfl
  | refused _ failed =>
      rw [interview, interview, List.flatMap_singleton, reportsOf_inquire]
      intro _ model granted
      rw [hears_of_respond unwritten granted] at failed
      cases failed
  | undecided _ unknown =>
      rw [interview, interview, List.flatMap_singleton, reportsOf_inquire]
      intro _ model granted
      rw [respond_of_hears unknown] at granted
      cases granted
  | modelless _ missing =>
      rw [interview, interview, List.flatMap_singleton, reportsOf_inquire]
      intro _ model granted
      rw [respond_of_hears missing] at granted
      cases granted
  | settled _ granted decoded =>
      have later {after : Moment σ} :
          evaluator.reportsOf (evaluator.inquire constraint (.definite timestep) after) =
            evaluator.records constraint (.definite timestep) after := by
        apply reportsOf_inquire
        intro contrary
        cases contrary
      rw [interview, interview, interview, List.flatMap_cons, List.flatMap_singleton, later,
        reportsOf, shown?_inquire (respond_of_hears granted) decoded, List.append_assoc]
      rfl

theorem Course.reports_eq {bound start : Nat} {began : Nanoseconds} {moment : Moment σ}
    {questions : List Question} {reports : List Report} {halt : Halt}
    (course : evaluator.Course constraint bound began start moment questions reports halt) :
    reports = (evaluator.interview constraint questions moment).flatMap evaluator.reportsOf := by
  induction course with
  | exhausted _ => rfl
  | stopped _ stops => exact stops.reports_eq unwritten
  | cleared _ _ denied _ ih =>
      rw [interview, List.flatMap_cons, reportsOf_inquire, ih]
      intro _ model granted
      rw [respond_of_hears denied] at granted
      cases granted

end Unwritten

/-! ### Questions and traces -/

theorem shown?_eq_none_of_definite {question : Question} {moment : Moment σ}
    (definite : question.phase = .definite) :
    evaluator.shown? (evaluator.inquire constraint question moment) = none := by
  have phase : (evaluator.inquire constraint question moment).phase = .definite := definite
  rw [shown?, phase]

theorem Swept.shown?_eq_none {start stop : Nat} {began : Nanoseconds} {moment : Moment σ}
    (swept : evaluator.Swept constraint began start stop moment) :
    (evaluator.interview constraint (sweep start stop) moment).filterMap evaluator.shown? = [] := by
  rw [List.filterMap_eq_nil_iff]
  intro inquiry member
  obtain ⟨offered, denied⟩ := swept.denied inquiry member
  unfold shown?
  rw [denied]
  split
  · rename_i granted
    cases granted
  · rfl

/-- A trace is shown at the last timestep only, and once. -/
theorem Course.shows_once {bound start : Nat} {began : Nanoseconds} {moment : Moment σ}
    {questions : List Question} {reports : List Report} {halt : Halt}
    (course : evaluator.Course constraint bound began start moment questions reports halt) :
    ((evaluator.interview constraint questions moment).filterMap evaluator.shown?).length ≤ 1 := by
  rcases course.sweeps with ⟨rfl, _, swept⟩ | ⟨timestep, last, _, _, _, _, rfl, _, swept, stops⟩
  · rw [swept.shown?_eq_none]
    exact Nat.zero_le 1
  · rw [interview_append, List.filterMap_append, swept.shown?_eq_none, List.nil_append]
    cases stops with
    | overtime _ _ => exact Nat.zero_le 1
    | refused _ _ => exact List.length_filterMap_le ..
    | undecided _ _ => exact List.length_filterMap_le ..
    | modelless _ _ => exact List.length_filterMap_le ..
    | settled _ _ _ =>
        have unshown {after : Moment σ} :
            evaluator.shown? (evaluator.inquire constraint (.definite timestep) after) = none :=
          shown?_eq_none_of_definite rfl
        rw [interview, interview, interview, ← List.singleton_append, List.filterMap_append,
          List.filterMap_cons_none unshown, List.filterMap_nil, List.append_nil]
        exact List.length_filterMap_le ..

/-- A course asks whether a violation is possible, timestep after timestep, and in the end perhaps
whether it is definite. -/
theorem Course.questions_eq {bound start : Nat} {began : Nanoseconds} {moment : Moment σ}
    {questions : List Question} {reports : List Report} {halt : Halt}
    (course : evaluator.Course constraint bound began start moment questions reports halt)
    (window : start ≤ bound) :
    ∃ last, start ≤ last ∧
      (last ≤ bound + 1 ∧ questions = sweep start last ∨
        last ≤ bound ∧ questions = sweep start last ++ [.possible last, .definite last]) := by
  rcases course.sweeps with ⟨rfl, _, _⟩ | ⟨timestep, last, _, _, above, below, rfl, _, _, stops⟩
  · exact ⟨bound + 1, Nat.le_succ_of_le window, Or.inl ⟨Nat.le_refl _, rfl⟩⟩
  · have upTo : ∃ last, start ≤ last ∧
        (last ≤ bound + 1 ∧ sweep start timestep ++ [.possible timestep] = sweep start last ∨
          last ≤ bound ∧ sweep start timestep ++ [.possible timestep] =
            sweep start last ++ [.possible last, .definite last]) :=
      ⟨timestep + 1, Nat.le_succ_of_le above,
        Or.inl ⟨Nat.succ_le_succ below, (sweep_succ above).symm⟩⟩
    cases stops with
    | overtime _ _ =>
        exact ⟨timestep, above, Or.inl ⟨Nat.le_succ_of_le below, List.append_nil _⟩⟩
    | refused _ _ => exact upTo
    | undecided _ _ => exact upTo
    | modelless _ _ => exact upTo
    | settled _ _ _ => exact ⟨timestep, above, Or.inr ⟨below, rfl⟩⟩

/-! ### Counts -/

theorem settle_traces {trace : Trace} {heard : Except CheckError (SatResult × Option Model)}
    {finding : Finding} (long : trace.states.length = timestep + 1)
    (settled : evaluator.settle timestep trace heard = .ok finding) :
    finding.verdict ≠ .noErrorFound ∧
      ∃ shown, finding.trace = some shown ∧ shown.states.length = timestep + 1 := by
  cases heard with
  | error problem => cases settled
  | ok given =>
      obtain ⟨result, offered⟩ := given
      cases result with
      | unsat =>
          cases settled
          exact ⟨nofun, trace, rfl, long⟩
      | unknown reason =>
          cases settled
          exact ⟨nofun, trace, rfl, long⟩
      | sat =>
          cases offered with
          | none => cases settled
          | some model =>
              have decoded := model.decode_eq evaluator.program evaluator.property timestep
              rw [settle_granted decoded] at settled
              cases settled
              exact ⟨nofun, _, rfl, (Model.follows_of_decode decoded).length_states⟩

/-- What a course that stops with a finding asked at its last timestep. -/
theorem Stops.ok_cases {began : Nanoseconds} {moment : Moment σ} {questions : List Question}
    {reports : List Report} {finding : Finding}
    (stops : evaluator.Stops constraint began timestep moment questions reports (.ok finding)) :
    finding.verdict ≠ .noErrorFound ∧
    ((∃ offered trace,
        possibleAt timestep (evaluator.interview constraint questions moment) =
          some (.answered .sat offered) ∧ questions.length = 2 ∧
        finding.trace = some trace ∧ trace.states.length = timestep + 1) ∨
      (∃ reason offered,
        possibleAt timestep (evaluator.interview constraint questions moment) =
          some (.answered (.unknown reason) offered) ∧ questions.length = 1 ∧
        finding.trace = none) ∨
      (questions = [] ∧ evaluator.OutOfTime (moment.now - began) ∧ finding.trace = none)) := by
  have asked {result : SatResult} {offered : Option Model}
      (heard : evaluator.hears constraint (.possible timestep) moment = .ok (result, offered))
      (rest : List Inquiry) :
      possibleAt timestep (evaluator.inquire constraint (.possible timestep) moment :: rest) =
        some (.answered result offered) :=
    (possibleAt_cons rfl rfl rest).trans
      (congrArg some (exchange_inquire_iff.mpr (respond_of_hears heard)))
  generalize plan : Except.ok finding = result at stops
  cases stops with
  | refused _ _ => cases plan
  | modelless _ _ => cases plan
  | overtime limited late =>
      cases plan
      exact ⟨nofun, Or.inr (Or.inr ⟨rfl, ⟨_, limited, late⟩, rfl⟩)⟩
  | undecided _ unknown =>
      cases plan
      exact ⟨nofun, Or.inr (Or.inl ⟨_, _, asked unknown _, rfl, rfl⟩)⟩
  | settled _ granted decoded =>
      obtain ⟨found, trace, traced, long⟩ :=
        settle_traces (Model.follows_of_decode decoded).length_states plan.symm
      exact ⟨found, Or.inl ⟨_, trace, asked granted _, rfl, traced, long⟩⟩

section Balances

variable {bound start : Nat} {began : Nanoseconds} {moment : Moment σ}

theorem Swept.balances (window : start ≤ bound)
    (swept : evaluator.Swept constraint began start (bound + 1) moment) (elapsed : Nanoseconds) :
    evaluator.Balances bound start (evaluator.interview constraint (sweep start (bound + 1)) moment)
      { verdict := .noErrorFound
        timestep := bound
        elapsed
        queries := (sweep start (bound + 1)).length
        extensions := bound + 1 } := by
  have counted : (sweep start (bound + 1)).length = bound - start + 1 := by
    rw [length_sweep]
    omega
  have untraced : ¬∃ offered,
      possibleAt bound (evaluator.interview constraint (sweep start (bound + 1)) moment) =
        some (.answered .sat offered) := by
    rintro ⟨offered, granted⟩
    obtain ⟨inquiry, member, same⟩ := exists_of_possibleAt granted
    obtain ⟨denial, denied⟩ := swept.denied inquiry member
    rw [denied] at same
    cases same
  exact ⟨window, Nat.le_refl _, fun _ => ⟨rfl, counted, rfl, rfl⟩,
    fun contrary => absurd rfl contrary, fun contrary => absurd rfl contrary,
    iff_of_false Bool.false_ne_true untraced, nofun⟩

/-- The sweep before a timestep asks nothing of it. -/
theorem possibleAt_interview_sweep (last : List Question) :
    possibleAt timestep
        (evaluator.interview constraint (sweep start timestep ++ last) moment) =
      possibleAt timestep (evaluator.interview constraint last
        (evaluator.reached constraint (sweep start timestep) moment)) := by
  rw [interview_append, possibleAt_append_of_ne]
  intro inquiry member
  obtain ⟨earlier, _, before, rfl⟩ := mem_interview_sweep_iff.mp member
  exact Nat.ne_of_lt before

theorem Course.balances {questions : List Question} {reports : List Report} {halt : Halt}
    {outcome : Outcome}
    (course : evaluator.Course constraint bound began start moment questions reports halt)
    (window : start ≤ bound)
    (answered : halt.answer ((evaluator.reached constraint questions moment).now - began)
      questions.length = .ok outcome) :
    evaluator.Balances bound start (evaluator.interview constraint questions moment) outcome := by
  rcases course.sweeps with ⟨rfl, rfl, swept⟩ |
    ⟨timestep, last, ending, result, above, below, rfl, rfl, swept, stops⟩
  · cases answered
    exact swept.balances window _
  · have here : possibleAt timestep
        (evaluator.interview constraint (sweep start timestep ++ last) moment) = _ :=
      possibleAt_interview_sweep last
    have counted : (sweep start timestep ++ last).length = timestep - start + last.length := by
      rw [List.length_append, length_sweep]
    cases result with
    | error problem => cases answered
    | ok finding =>
        cases answered
        obtain ⟨found, ⟨offered, trace, granted, two, traced, long⟩ |
          ⟨reason, offered, unknown, one, untraced⟩ | ⟨rfl, late, untraced⟩⟩ := stops.ok_cases
        · have granted := here.trans granted
          rw [two] at counted
          refine ⟨above, below, fun contrary => absurd contrary found, fun _ => rfl,
            fun _ => Or.inl ⟨⟨offered, granted⟩, counted⟩, ?_, ?_⟩
          · exact iff_of_true (Option.isSome_of_eq_some traced) ⟨offered, granted⟩
          · intro other present
            cases traced.symm.trans present
            exact long
        · have unknown := here.trans unknown
          rw [one] at counted
          refine ⟨above, below, fun contrary => absurd contrary found, fun _ => rfl,
            fun _ => Or.inr (Or.inl ⟨⟨reason, offered, unknown⟩, counted⟩), ?_, ?_⟩
          · simp [untraced, unknown]
          · simp [untraced]
        · rw [List.append_nil] at here counted ⊢
          have unasked : possibleAt timestep
              (evaluator.interview constraint (sweep start timestep) moment) = none := here
          refine ⟨above, below, fun contrary => absurd contrary found, fun _ => rfl,
            fun _ => Or.inr (Or.inr ⟨unasked, late, counted⟩), ?_, ?_⟩
          · simp [untraced, unasked]
          · simp [untraced]

end Balances

/-! ### Whole evaluations -/

/-- Whatever the oracle answers, an evaluation without files asks timestep after timestep whether a
violation is possible, and at the last perhaps whether it is definite. Every query that is answered is
reported, in order, and at most one trace, right after the query whose model shows it; the outcome is
reported last, and an error leaves none. The outcome balances with the queries. -/
theorem evaluate_keeps_books (evaluator : Evaluator σ) (unwritten : evaluator.dump = none)
    (constraint : Option Formula) {bound start : Nat} (window : start ≤ bound)
    (session : Session σ) :
    ∃ questions : List Question,
      (∃ last, start ≤ last ∧
        (last ≤ bound + 1 ∧ questions = sweep start last ∨
          last ≤ bound ∧ questions = sweep start last ++ [.possible last, .definite last])) ∧
      evaluator.Passes constraint session
        ((evaluator.evaluate bound start constraint).final session) questions
        ((evaluator.interview constraint questions session.moment).flatMap evaluator.reportsOf ++
          evaluator.closing ((evaluator.evaluate bound start constraint).answer session)) ∧
      ((evaluator.interview constraint questions session.moment).filterMap
        evaluator.shown?).length ≤ 1 ∧
      ∀ outcome, (evaluator.evaluate bound start constraint).answer session = .ok outcome →
        evaluator.Balances bound start (evaluator.interview constraint questions session.moment)
          outcome := by
  obtain ⟨questions, reports, halt, course, follows⟩ :=
    evaluator.evaluate_course window constraint session
  have passes := follows.proceeds.passes
  rw [course.reports_eq unwritten] at passes
  refine ⟨questions, course.questions_eq window, passes, course.shows_once, ?_⟩
  intro outcome answered
  rw [follows.answer, Nat.zero_add] at answered
  exact course.balances window answered

end Evaluator

/-- An oracle that clears a timestep and at the next grants a possible violation, not a definite one. -/
def Bench.unsettled : Bench :=
  { answering := .script [.unsat, .sat (some (.ofList [])), .unsat], takes := [3, 5] }

namespace Evaluator

theorem evaluate_keeps_books_unsettled :
    ∃ questions outcome,
      ((single Bench.oracle .walk).evaluate 4 1 none).answer { oracle := Bench.unsettled } =
        .ok outcome ∧
      outcome.verdict = .unknown ∧ outcome.timestep = 2 ∧ outcome.queries = 3 ∧
      (((single Bench.oracle .walk).evaluate 4 1 none).final
        { oracle := Bench.unsettled }).told.length = 5 ∧
      (single Bench.oracle .walk).Balances 4 1
        ((single Bench.oracle .walk).interview none questions ⟨.unsettled, 0⟩) outcome := by
  obtain ⟨questions, _, _, _, balances⟩ := evaluate_keeps_books (single Bench.oracle .walk) rfl none
    (by decide : 1 ≤ 4) { oracle := Bench.unsettled }
  exact ⟨questions, _, rfl, rfl, rfl, rfl, rfl, balances _ rfl⟩

end Evaluator

end Trivalent
