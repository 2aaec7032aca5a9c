import Trivalent.Proofs.Evaluator.Execution

/-!
The time of an evaluation and its budget. The budget is looked at between timesteps only: it ends an
evaluation before the first timestep at whose start it is used up, if the oracle denies a violation at
all timesteps before. The queries that an evaluation reports never took longer than the evaluation
(`evaluate_keepsTime`).
-/

set_option autoImplicit false

namespace Trivalent

variable {σ : Type}

namespace Report

def query? : Report → Option QueryRecord
  | .query record => some record
  | _ => none

def outcome? : Report → Option Outcome
  | .outcome _ final => some final
  | _ => none

end Report

/-- The outcome of an evaluation from `start` on whose budget is used up before the timestep `last`,
where nothing is asked any more. -/
structure Outcome.SpentAt (label : String) (seconds start last : Nat) (outcome : Outcome) :
    Prop where
  verdict : outcome.verdict =
    .inconclusive s!"{label} used up its {seconds}s budget before timestep {last}"
  timestep : outcome.timestep = last
  queries : outcome.queries = last - start

theorem sum_elapsed_le_sum_took (label : String) (inquiries : List Inquiry) :
    ((inquiries.filterMap (Inquiry.record? label)).map QueryRecord.elapsed).sum ≤
      (inquiries.map Inquiry.took).sum := by
  induction inquiries with
  | nil => exact Nat.le_refl 0
  | cons inquiry rest ih =>
      rw [List.map_cons, List.sum_cons]
      cases recorded : inquiry.record? label with
      | none =>
          rw [List.filterMap_cons_none recorded]
          exact Nat.le_add_left_of_le ih
      | some record =>
          rw [List.filterMap_cons_some recorded, List.map_cons, List.sum_cons,
            Inquiry.elapsed_eq_took recorded]
          exact Nat.add_le_add_left ih _

namespace Evaluator

open EvalM

section Statements

variable (evaluator : Evaluator σ) (constraint : Option Formula)

/-- The time limit is reached at the start of this timestep and of none before, and a violation is
denied at all timesteps before. -/
structure Expires (limit : Nanoseconds) (bound start : Nat) (moment : Moment σ) (last : Nat) :
    Prop where
  start_le : start ≤ last
  le_bound : last ≤ bound
  late : limit ≤ (evaluator.reached constraint (sweep start last) moment).now - moment.now
  first : ∀ timestep, start ≤ timestep → timestep < last →
    (evaluator.reached constraint (sweep start timestep) moment).now - moment.now < limit
  denied : ∀ inquiry ∈ evaluator.interview constraint (sweep start last) moment,
    ∃ offered, inquiry.exchange = .answered .unsat offered

/-- Between two sessions these questions are asked and these reports are made; the times of the
evaluation and its end fit the timeout, which is none if it is 0. -/
structure KeepsTime (timeout bound start : Nat) (session : Session σ) (questions : List Question)
    (reports : List Report) : Prop where
  passes : evaluator.Passes constraint session
    ((evaluator.evaluate bound start constraint).final session) questions reports
  recorded : reports.filterMap Report.query? =
    (evaluator.interview constraint questions session.moment).filterMap
      (Inquiry.record? evaluator.label)
  laps : ∀ outcome, (evaluator.evaluate bound start constraint).answer session = .ok outcome →
    ((reports.filterMap Report.query?).map QueryRecord.elapsed).sum ≤ outcome.elapsed
  begun : timeout ≠ 0 → ∀ inquiry ∈ evaluator.interview constraint questions session.moment,
    inquiry.phase = .possible → inquiry.begun - session.now < .ofSeconds timeout
  /-- A file that cannot be written ends an evaluation, too. -/
  spent_iff : timeout ≠ 0 → ∀ last,
    (∃ outcome, (evaluator.evaluate bound start constraint).answer session = .ok outcome ∧
      outcome.SpentAt evaluator.label timeout start last) ↔
    evaluator.Expires constraint (.ofSeconds timeout) bound start session.moment last ∧
      ∀ source, (evaluator.evaluate bound start constraint).answer session ≠
        .error (.file source)
  filed : evaluator.dump = none → ∀ source,
    (evaluator.evaluate bound start constraint).answer session ≠ .error (.file source)
  spent : ∀ outcome seconds last,
    (evaluator.evaluate bound start constraint).answer session = .ok outcome →
    outcome.SpentAt evaluator.label seconds start last →
    timeout ≠ 0 ∧ outcome.trace = none ∧ .ofSeconds timeout ≤ outcome.elapsed

end Statements

variable {evaluator : Evaluator σ} {constraint : Option Formula}

/-! ### Reports of a course -/

section Views

variable {β : Type} {view : Report → Option β}
  (untraced : ∀ model timestep trace, view (.trace model timestep trace) = none)

theorem filterMap_records (question : Question) (moment : Moment σ) (rest : List Inquiry) :
    ((evaluator.inquire constraint question moment :: rest).filterMap
        (Inquiry.record? evaluator.label)).filterMap (fun record => view (.query record)) =
      (evaluator.records constraint question moment).filterMap view ++
        (rest.filterMap (Inquiry.record? evaluator.label)).filterMap
          (fun record => view (.query record)) := by
  unfold records
  cases recorded :
      (evaluator.inquire constraint question moment).record? evaluator.label with
  | none =>
      rw [List.filterMap_cons_none recorded]
      rfl
  | some record =>
      rw [List.filterMap_cons_some recorded, ← List.singleton_append, List.filterMap_append]
      rfl

include untraced

theorem Stops.filterMap_reports {began : Nanoseconds} {timestep : Nat} {moment : Moment σ}
    {questions : List Question} {reports : List Report} {result : Except CheckError Finding}
    (stops : evaluator.Stops constraint began timestep moment questions reports result) :
    reports.filterMap view =
      ((evaluator.interview constraint questions moment).filterMap
        (Inquiry.record? evaluator.label)).filterMap (fun record => view (.query record)) := by
  have once : (evaluator.records constraint (.possible timestep) moment).filterMap view =
      ((evaluator.interview constraint [.possible timestep] moment).filterMap
        (Inquiry.record? evaluator.label)).filterMap (fun record => view (.query record)) := by
    rw [interview, filterMap_records, interview]
    exact (List.append_nil _).symm
  cases stops with
  | overtime _ _ => rfl
  | refused _ _ => exact once
  | undecided _ _ => exact once
  | modelless _ _ => exact once
  | settled _ _ _ =>
      rw [interview, filterMap_records, interview, filterMap_records, interview,
        List.filterMap_append, List.filterMap_cons_none (untraced _ _ _)]
      exact congrArg _ (List.append_nil _).symm

/-- Of the records of its queries and of traces are all reports of a course made. -/
theorem Course.filterMap_reports {bound start : Nat} {began : Nanoseconds} {moment : Moment σ}
    {questions : List Question} {reports : List Report} {halt : Halt}
    (course : evaluator.Course constraint bound began start moment questions reports halt) :
    reports.filterMap view =
      ((evaluator.interview constraint questions moment).filterMap
        (Inquiry.record? evaluator.label)).filterMap (fun record => view (.query record)) := by
  induction course with
  | exhausted _ => rfl
  | stopped _ stops => exact stops.filterMap_reports untraced
  | cleared _ _ _ _ ih => rw [interview, filterMap_records, List.filterMap_append, ih]

end Views

/-! ### Errors of files -/

section Files

variable {problem : CheckError}

theorem bind_error_cases {α β : Type} {first : Except CheckError α} {next : α → Except CheckError β}
    (failed : (first >>= next) = .error problem) :
    first = .error problem ∨ ∃ value, first = .ok value ∧ next value = .error problem := by
  cases first with
  | error other =>
      cases failed
      exact Or.inl rfl
  | ok value => exact Or.inr ⟨value, rfl, failed⟩

theorem mapError_file_error {α : Type} {result : Except FileError α}
    (failed : result.mapError CheckError.file = .error problem) :
    ∃ source, problem = .file source := by
  cases result with
  | ok value => cases failed
  | error source =>
      cases failed
      exact ⟨source, rfl⟩

theorem storing_error {folder : Folder} {name : String}
    (failed : storing folder name = .error problem) : ∃ source, problem = .file source := by
  rcases bind_error_cases failed with unplaced | ⟨_, _, impossible⟩
  · exact mapError_file_error unplaced
  · cases impossible

theorem filing_error {phase : Phase} {timestep : Nat} {result : SatResult}
    (failed : evaluator.filing phase timestep result = .error problem) :
    evaluator.dump ≠ none ∧ ∃ source, problem = .file source := by
  unfold filing at failed
  split at failed
  · cases failed
  · rename_i folder place
    refine ⟨Option.ne_none_iff_exists'.mpr ⟨folder, place⟩, ?_⟩
    rcases bind_error_cases failed with uncreated | ⟨_, _, failed⟩
    · exact mapError_file_error uncreated
    · rcases bind_error_cases failed with unstored | ⟨_, _, failed⟩
      · exact storing_error unstored
      · split at failed
        · exact storing_error failed
        · cases failed

/-- A question is not answered, or its files cannot be written. -/
theorem hears_error {question : Question} {moment : Moment σ}
    (failed : evaluator.hears constraint question moment = .error problem) :
    (∃ message, evaluator.respond constraint question moment = .error message ∧
      problem = .oracle question.timestep message) ∨
    evaluator.dump ≠ none ∧ ∃ source, problem = .file source := by
  unfold hears at failed
  cases responded : evaluator.respond constraint question moment with
  | error message =>
      rw [responded] at failed
      cases failed
      exact Or.inl ⟨message, rfl, rfl⟩
  | ok given =>
      rw [responded] at failed
      rcases bind_error_cases failed with unfiled | ⟨_, _, impossible⟩
      · exact Or.inr (filing_error unfiled)
      · cases impossible

theorem traceOf_error {timestep : Nat} {offered : Option Model}
    (failed : evaluator.traceOf timestep offered = .error problem) :
    problem = .missingModel timestep := by
  cases offered with
  | none =>
      cases failed
      rfl
  | some model =>
      have decoded := model.decode_eq evaluator.program evaluator.property timestep
      rw [traceOf_eq_ok_iff.mpr ⟨model, rfl, decoded⟩] at failed
      cases failed

theorem settle_error {timestep : Nat} {trace : Trace}
    {heard : Except CheckError (SatResult × Option Model)}
    (failed : evaluator.settle timestep trace heard = .error problem) :
    heard = .error problem ∨ problem = .missingModel timestep := by
  rcases bind_error_cases failed with unheard | ⟨⟨result, offered⟩, _, failed⟩
  · exact Or.inl unheard
  · cases result with
    | unsat => cases failed
    | unknown reason => cases failed
    | sat =>
        rcases bind_error_cases failed with untraced | ⟨_, _, impossible⟩
        · exact Or.inr (traceOf_error untraced)
        · cases impossible

/-- Only files lead to errors of files. -/
theorem Course.ne_file (unwritten : evaluator.dump = none) {bound start : Nat}
    {began : Nanoseconds} {moment : Moment σ} {questions : List Question} {reports : List Report}
    {halt : Halt}
    (course : evaluator.Course constraint bound began start moment questions reports halt)
    (source : FileError) : halt.result ≠ .error (.file source) := by
  have heard {question : Question} {moment : Moment σ} :
      evaluator.hears constraint question moment ≠ .error (.file source) := by
    intro failed
    rcases hears_error failed with ⟨_, _, other⟩ | ⟨written, _⟩
    · cases other
    · exact written unwritten
  intro failed
  rcases course.sweeps with ⟨_, rfl, _⟩ | ⟨timestep, _, _, result, _, _, _, rfl, _, stops⟩
  · cases failed
  · cases failed
    generalize plan : Except.error (CheckError.file source) = result at stops
    cases stops with
    | overtime _ _ => cases plan
    | refused _ refusal =>
        cases plan
        exact heard refusal
    | undecided _ _ => cases plan
    | modelless _ _ => cases plan
    | settled _ _ _ =>
        rcases settle_error plan.symm with unheard | other
        · exact heard unheard
        · cases other

end Files

/-! ### The budget of a course -/

theorem outOfTime_iff {seconds : Nat} (limited : evaluator.budget = some seconds)
    (elapsed : Nanoseconds) : evaluator.OutOfTime elapsed ↔ .ofSeconds seconds ≤ elapsed := by
  simp [OutOfTime, limited]

theorem not_outOfTime (unlimited : evaluator.budget = none) (elapsed : Nanoseconds) :
    ¬evaluator.OutOfTime elapsed := by
  simp [OutOfTime, unlimited]

section Budget

variable {bound start : Nat} {began : Nanoseconds} {moment : Moment σ} {questions : List Question}
  {reports : List Report} {halt : Halt}

/-- No query for a possible violation begins after the budget is used up. -/
theorem Course.begun_in_time
    (course : evaluator.Course constraint bound began start moment questions reports halt) :
    ∀ inquiry ∈ evaluator.interview constraint questions moment,
      inquiry.phase = .possible → ¬evaluator.OutOfTime (inquiry.begun - began) := by
  have swept_in_time {stop : Nat} (swept : evaluator.Swept constraint began start stop moment) :
      ∀ inquiry ∈ evaluator.interview constraint (sweep start stop) moment,
        ¬evaluator.OutOfTime (inquiry.begun - began) := by
    intro inquiry member
    obtain ⟨timestep, above, below, rfl⟩ := mem_interview_sweep_iff.mp member
    exact (swept timestep above below).1
  intro inquiry member possible
  rcases course.sweeps with ⟨rfl, _, swept⟩ | ⟨timestep, last, _, _, _, _, rfl, _, swept, stops⟩
  · exact swept_in_time swept inquiry member
  · rw [interview_append, List.mem_append] at member
    rcases member with before | asked
    · exact swept_in_time swept inquiry before
    · cases stops with
      | overtime _ _ => cases asked
      | refused early _ =>
          cases List.mem_singleton.mp asked
          exact early
      | undecided early _ =>
          cases List.mem_singleton.mp asked
          exact early
      | modelless early _ =>
          cases List.mem_singleton.mp asked
          exact early
      | settled early _ _ =>
          rcases List.mem_cons.mp asked with rfl | definite
          · exact early
          · cases List.mem_singleton.mp definite
            cases possible

/-- A course that asks nothing at its last timestep is one that the budget ends. -/
theorem Course.of_spentAt {outcome : Outcome} {seconds last : Nat}
    (course : evaluator.Course constraint bound began start moment questions reports halt)
    (answered : halt.answer ((evaluator.reached constraint questions moment).now - began)
      questions.length = .ok outcome)
    (spent : outcome.SpentAt evaluator.label seconds start last) :
    start ≤ last ∧ last ≤ bound ∧ evaluator.Swept constraint began start last moment ∧
      outcome.elapsed = (evaluator.reached constraint (sweep start last) moment).now - began ∧
      evaluator.OutOfTime outcome.elapsed ∧ outcome.trace = none := by
  rcases course.sweeps with ⟨rfl, rfl, _⟩ |
    ⟨timestep, asked, _, result, above, below, rfl, rfl, swept, stops⟩
  · cases answered
    cases spent.verdict
  · cases result with
    | error problem => cases answered
    | ok finding =>
        cases answered
        have here : timestep = last := spent.timestep
        subst here
        have counted : (sweep start timestep ++ asked).length = timestep - start := spent.queries
        rw [List.length_append, length_sweep] at counted
        have nothing : asked = [] := List.eq_nil_of_length_eq_zero (by omega)
        subst nothing
        rw [List.append_nil]
        cases stops with
        | overtime limited late => exact ⟨above, below, swept, rfl, ⟨_, limited, late⟩, rfl⟩

theorem Course.expires {outcome : Outcome} {seconds last : Nat}
    (limited : evaluator.budget = some seconds)
    (course : evaluator.Course constraint bound moment.now start moment questions reports halt)
    (answered : halt.answer ((evaluator.reached constraint questions moment).now - moment.now)
      questions.length = .ok outcome)
    (spent : outcome.SpentAt evaluator.label seconds start last) :
    evaluator.Expires constraint (.ofSeconds seconds) bound start moment last := by
  obtain ⟨above, below, swept, elapsed, late, _⟩ := course.of_spentAt answered spent
  rw [outOfTime_iff limited, elapsed] at late
  refine ⟨above, below, late, ?_, swept.denied⟩
  intro timestep after before
  have early := (swept timestep after before).1
  rw [outOfTime_iff limited] at early
  exact Nat.lt_of_not_le early

/-- A course at whose timestep the budget is used up, and not before, is ended by the budget, unless
another answer or a file that cannot be written ends it before. -/
theorem Course.spent_of_expires {seconds last : Nat} (limited : evaluator.budget = some seconds)
    (course : evaluator.Course constraint bound moment.now start moment questions reports halt)
    (expires : evaluator.Expires constraint (.ofSeconds seconds) bound start moment last)
    (filed : ∀ source, halt.result ≠ .error (.file source)) (elapsed : Nanoseconds) :
    ∃ outcome, halt.answer elapsed questions.length = .ok outcome ∧
      outcome.SpentAt evaluator.label seconds start last := by
  have late := (outOfTime_iff limited _).mpr expires.late
  rcases course.sweeps with ⟨_, _, swept⟩ |
    ⟨timestep, asked, _, result, above, below, rfl, rfl, swept, stops⟩
  · exact absurd late (swept last expires.start_le (Nat.lt_succ_of_le expires.le_bound)).1
  · rcases Nat.lt_trichotomy timestep last with before | rfl | after
    · have early : ¬evaluator.OutOfTime _ := fun contrary =>
        Nat.not_le_of_lt (expires.first timestep above before) ((outOfTime_iff limited _).mp contrary)
      obtain ⟨offered, answered⟩ := expires.denied _
        (mem_interview_sweep_iff.mpr ⟨timestep, above, before, rfl⟩)
      have denied := exchange_inquire_iff.mp answered
      cases stops with
      | overtime present contrary => exact absurd ⟨_, present, contrary⟩ early
      | refused _ failed =>
          rcases hears_error failed with ⟨message, failed, _⟩ | ⟨_, source, rfl⟩
          · cases denied.symm.trans failed
          · exact absurd rfl (filed source)
      | undecided _ unknown => cases denied.symm.trans (respond_of_hears unknown)
      | modelless _ missing => cases denied.symm.trans (respond_of_hears missing)
      | settled _ granted _ => cases denied.symm.trans (respond_of_hears granted)
    · cases stops with
      | overtime present _ =>
          cases limited.symm.trans present
          refine ⟨_, rfl, rfl, rfl, ?_⟩
          rw [List.append_nil, length_sweep]
      | refused early _ => exact absurd late early
      | undecided early _ => exact absurd late early
      | modelless early _ => exact absurd late early
      | settled early _ _ => exact absurd late early
    · exact absurd late (swept last expires.start_le after).1

end Budget

/-! ### Whole evaluations -/

theorem answer_eq_file_iff {halt : Halt} {elapsed : Nanoseconds} {queries : Nat}
    {source : FileError} :
    halt.answer elapsed queries = .error (.file source) ↔ halt.result = .error (.file source) := by
  unfold Halt.answer
  cases halt.result with
  | ok finding => exact iff_of_false nofun nofun
  | error problem => simp [Except.map]

theorem elapsed_of_answer {halt : Halt} {elapsed : Nanoseconds} {queries : Nat} {outcome : Outcome}
    (answered : halt.answer elapsed queries = .ok outcome) : outcome.elapsed = elapsed := by
  unfold Halt.answer at answered
  cases result : halt.result with
  | error problem =>
      rw [result] at answered
      cases answered
  | ok finding =>
      rw [result] at answered
      cases answered
      rfl

theorem filterMap_query?_closing (answer : Except CheckError Outcome) :
    (evaluator.closing answer).filterMap Report.query? = [] := by
  cases answer <;> rfl

/-- The time of an evaluation is the time that its queries took. -/
theorem Follows.elapsed {questions : List Question} {reports : List Report} {halt : Halt}
    {action : EvalM σ Outcome} {session : Session σ} {queries : Nat} {outcome : Outcome}
    (follows : evaluator.Follows constraint session.now queries action session questions reports halt)
    (answered : action.answer session = .ok outcome) :
    outcome.elapsed =
      ((evaluator.interview constraint questions session.moment).map Inquiry.took).sum := by
  rw [follows.answer] at answered
  rw [elapsed_of_answer answered, now_reached]
  exact Nat.add_sub_cancel_left ..

theorem evaluate_keepsTime {timeout : Nat}
    (budget : evaluator.budget = if timeout = 0 then none else some timeout) {bound start : Nat}
    (window : start ≤ bound) (constraint : Option Formula) (session : Session σ) :
    ∃ questions reports,
      evaluator.KeepsTime constraint timeout bound start session questions reports := by
  obtain ⟨questions, reports, halt, course, follows⟩ :=
    evaluator.evaluate_course window constraint session
  have limited (timed : timeout ≠ 0) : evaluator.budget = some timeout := by
    rw [budget, if_neg timed]
  have recorded : (reports ++ evaluator.closing
      ((evaluator.evaluate bound start constraint).answer session)).filterMap Report.query? =
        (evaluator.interview constraint questions session.moment).filterMap
          (Inquiry.record? evaluator.label) := by
    rw [List.filterMap_append, filterMap_query?_closing, List.append_nil,
      course.filterMap_reports fun _ _ _ => rfl]
    exact List.filterMap_some
  have answers := follows.answer
  rw [Nat.zero_add] at answers
  refine ⟨questions, _, follows.proceeds.passes, recorded, ?_, ?_, ?_, ?_, ?_⟩
  · intro outcome answered
    rw [recorded, follows.elapsed answered]
    exact sum_elapsed_le_sum_took ..
  · intro timed inquiry member possible
    have early := course.begun_in_time inquiry member possible
    rw [outOfTime_iff (limited timed)] at early
    exact Nat.lt_of_not_le early
  · intro timed last
    rw [answers]
    constructor
    · rintro ⟨outcome, answered, spent⟩
      refine ⟨course.expires (limited timed) answered spent, ?_⟩
      intro source failed
      rw [answered] at failed
      cases failed
    · rintro ⟨expires, filed⟩
      refine course.spent_of_expires (limited timed) expires ?_ _
      intro source failed
      exact filed source (answer_eq_file_iff.mpr failed)
  · intro unwritten source failed
    rw [answers, answer_eq_file_iff] at failed
    exact course.ne_file unwritten source failed
  · intro outcome seconds last answered spent
    rw [answers] at answered
    obtain ⟨_, _, _, _, late, untraced⟩ := course.of_spentAt answered spent
    by_cases timed : timeout = 0
    · rw [if_pos timed] at budget
      exact absurd late (not_outOfTime budget _)
    · exact ⟨timed, untraced, (outOfTime_iff (limited timed) _).mp late⟩

theorem budget_withSettings (evaluator : Evaluator σ) (settings : Settings) (disk : String → Site) :
    (evaluator.withSettings settings disk).budget =
      if settings.timeoutSecs.toNat = 0 then none else some settings.timeoutSecs.toNat := by
  have zero : settings.timeoutSecs = 0 ↔ settings.timeoutSecs.toNat = 0 := by
    rw [← UInt64.toNat_inj]
    rfl
  unfold withSettings
  simp only [zero]

end Evaluator

end Trivalent
