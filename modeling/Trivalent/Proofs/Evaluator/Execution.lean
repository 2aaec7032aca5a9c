import Trivalent.Proofs.Evaluator.Course
import Trivalent.Proofs.Trace.Decoding

/-!
Every evaluation has a course, and its answer, its reports and the time it takes are those of the course
(`evaluate_course`). The evaluator's functions are opened here, one after the other: a query, a definite
query, a timestep, a scan. Whatever else is said of one evaluation is read from its course.
-/

set_option autoImplicit false

namespace Trivalent

variable {σ : Type}

/-! ### The run -/

/-- The run has asked so many more queries since the same beginning, and is otherwise where it was. -/
structure Run.Advances (run : Run) (queries : Nat) (next : Run) : Prop where
  formulas : next.formulas = run.formulas
  extensions : next.extensions = run.extensions
  queries : next.queries = run.queries + queries
  started : next.watch.started = run.watch.started

theorem Run.Advances.trans {run next last : Run} {first second : Nat}
    (advances : run.Advances first next) (more : next.Advances second last) :
    run.Advances (first + second) last where
  formulas := more.formulas.trans advances.formulas
  extensions := more.extensions.trans advances.extensions
  queries := by rw [more.queries, advances.queries, Nat.add_assoc]
  started := more.started.trans advances.started

namespace Evaluator

open EvalM

/-- The run has unrolled the transitions before a timestep and asked so many queries. -/
structure Ready (evaluator : Evaluator σ) (constraint : Option Formula) (timestep queries : Nat)
    (run : Run) : Prop where
  unrolled : run.formulas = evaluator.task.unrolled constraint timestep
  extensions : run.extensions = timestep
  queries : run.queries = queries

variable {evaluator : Evaluator σ} {constraint : Option Formula} {run : Run} {timestep : Nat}

theorem ready_begun (evaluator : Evaluator σ) (constraint : Option Formula) (watch : Stopwatch) :
    evaluator.Ready constraint 0 0
      { formulas := evaluator.task.initial :: constraint.toList, watch } :=
  ⟨Task.unrolled_zero.symm, rfl, rfl⟩

theorem Ready.asked {queries more : Nat} {next : Run}
    (ready : evaluator.Ready constraint timestep queries run) (advances : run.Advances more next) :
    evaluator.Ready constraint timestep (queries + more) next where
  unrolled := advances.formulas.trans ready.unrolled
  extensions := advances.extensions.trans ready.extensions
  queries := by rw [advances.queries, ready.queries]

theorem Ready.extend {queries : Nat} (ready : evaluator.Ready constraint timestep queries run) :
    evaluator.Ready constraint (timestep + 1) queries
      (run.extend (evaluator.task.transition timestep)) where
  unrolled := by rw [Run.extend, ready.unrolled, Task.unrolled_succ]
  extensions := congrArg Nat.succ ready.extensions
  queries := ready.queries

theorem query_of_unrolled (unrolled : run.formulas = evaluator.task.unrolled constraint timestep)
    (phase : Phase) :
    run.query (evaluator.task.violation timestep) phase =
      evaluator.task.query constraint timestep phase := by
  rw [Run.query, unrolled]
  rfl

theorem filter_exceeds_eq_none_iff (watch : Stopwatch) (time : Nanoseconds) :
    (evaluator.budget.filter fun seconds => watch.exceeds time (.ofSeconds seconds)) = none ↔
      ¬evaluator.OutOfTime (time - watch.started) := by
  rw [Option.filter_eq_none_iff]
  constructor
  · intro none out
    obtain ⟨seconds, present, spent⟩ := out
    exact none seconds present (decide_eq_true spent)
  · intro early seconds present spent
    exact early ⟨seconds, present, of_decide_eq_true spent⟩

theorem run_spentBudget (run : Run) (session : Session σ) :
    (evaluator.spentBudget run).run session =
      .ok (evaluator.budget.filter fun seconds =>
        run.watch.exceeds session.now (.ofSeconds seconds)) session :=
  rfl

/-! ### Actions between queries -/

/-- The oracle and the clock stand still, and nothing is reported. -/
structure Unmoved (session after : Session σ) : Prop where
  moment : after.moment = session.moment
  adds : session.Adds after []

theorem unmoved_self (session : Session σ) : Unmoved session session :=
  ⟨rfl, Session.adds_nil rfl⟩

theorem Unmoved.concat {session after : Session σ} (unmoved : Unmoved session after) {entry : Entry}
    (unreported : entry.report? = none) (unannounced : entry.start? = none) :
    Unmoved session { after with journal := after.journal ++ [entry] } where
  moment := unmoved.moment
  adds := by
    have added : after.Adds { after with journal := after.journal ++ [entry] } [] :=
      ⟨[entry], rfl, List.filterMap_cons_none unreported, List.forall_mem_singleton.mpr unannounced⟩
    exact unmoved.adds.trans added

theorem Unmoved.proceeds {session after : Session σ} (unmoved : Unmoved session after) :
    evaluator.Proceeds constraint session after [] [] :=
  ⟨unmoved.moment, unmoved.adds⟩

theorem Proceeds.unmoved {session middle after : Session σ} {questions : List Question}
    {reports : List Report}
    (proceeds : evaluator.Proceeds constraint session middle questions reports)
    (unmoved : Unmoved middle after) :
    evaluator.Proceeds constraint session after questions reports where
  moment := unmoved.moment.trans proceeds.moment
  adds := by
    have added := proceeds.adds.trans unmoved.adds
    rw [List.append_nil] at added
    exact added

/-- The planned value or error is come to, while the oracle and the clock stand still. -/
inductive Keeps {α : Type} (session : Session σ) :
    Except CheckError α → EStateM.Result CheckError (Session σ) α → Prop where
  | ok {value : α} {after : Session σ} :
      Unmoved session after → Keeps session (.ok value) (.ok value after)
  | error {problem : CheckError} {after : Session σ} :
      Unmoved session after → Keeps session (.error problem) (.error problem after)

theorem Keeps.bind {α β : Type} {plan : Except CheckError α} {proceed : α → Except CheckError β}
    {action : EvalM σ α} {next : α → EvalM σ β} {session begun : Session σ}
    (first : Keeps session plan (action.run begun))
    (second : ∀ value middle, Unmoved session middle →
      Keeps session (proceed value) ((next value).run middle)) :
    Keeps session (plan >>= proceed) ((action >>= next).run begun) := by
  rw [EStateM.run_bind]
  generalize action.run begun = result at first
  cases first with
  | ok unmoved => exact second _ _ unmoved
  | error unmoved => exact .error unmoved

theorem ofFile_keeps {α : Type} (result : Except FileError α) {session middle : Session σ}
    (unmoved : Unmoved session middle) :
    Keeps session (result.mapError .file) ((ofFile result : EvalM σ α).run middle) := by
  cases result with
  | ok value => exact .ok unmoved
  | error problem => exact .error unmoved

theorem writeFile_keeps (folder : Folder) (name content : String) {session middle : Session σ}
    (unmoved : Unmoved session middle) :
    Keeps session (storing folder name) ((writeFile folder name content : EvalM σ Unit).run middle) :=
  (ofFile_keeps _ unmoved).bind fun _ _ kept => .ok (kept.concat rfl rfl)

theorem dumpQuery_keeps {folder : Folder} (place : evaluator.dump = some folder)
    (parts : List Formula) (phase : Phase) (timestep : Nat) (result : SatResult)
    (session : Session σ) :
    Keeps session (evaluator.filing phase timestep result)
      ((evaluator.dumpQuery folder parts phase timestep result).run session) := by
  unfold filing
  rw [place]
  apply (ofFile_keeps _ (unmoved_self session)).bind
  intro _ created kept
  apply (writeFile_keeps _ _ _ kept).bind
  intro _ written kept
  split
  · rw [run_bind_of_ok (run_currentModel evaluator written)]
    exact writeFile_keeps _ _ _ kept
  · exact .ok kept

theorem run_currentTrace {session : Session σ} {model : Model} {trace : Trace}
    (offered : evaluator.oracle.model session.oracle = some model)
    (decoded : model.decode evaluator.program evaluator.property timestep = .ok trace) :
    (evaluator.currentTrace timestep).run session = .ok trace session := by
  rw [currentTrace, EStateM.run_bind, run_currentModel, offered]
  simp only [decoded]
  rfl

theorem run_currentTrace_of_none {session : Session σ}
    (missing : evaluator.oracle.model session.oracle = none) :
    (evaluator.currentTrace timestep).run session =
      .error (.missingModel timestep) { session with
        journal := session.journal ++ [.note (.missingModel evaluator.label timestep)] } := by
  rw [currentTrace, EStateM.run_bind, run_currentModel, missing]
  rfl

theorem run_extend (run : Run) (timestep : Nat) (session : Session σ) :
    (evaluator.extend run timestep).run session =
      .ok (run.extend (evaluator.task.transition timestep)) { session with
        journal := session.journal ++ [.request evaluator.seat .transition] } :=
  rfl

theorem run_unroll {queries : Nat} {session begun : Session σ} (unmoved : Unmoved session begun)
    (ready : evaluator.Ready constraint 0 queries run) (count : Nat) :
    ∃ next after, (evaluator.unroll run count).run begun = .ok next after ∧
      Unmoved session after ∧ next.watch = run.watch ∧
      evaluator.Ready constraint count queries next := by
  induction count with
  | zero => exact ⟨run, begun, rfl, unmoved, rfl, ready⟩
  | succ count ih =>
      obtain ⟨next, after, ran, kept, watch, ready⟩ := ih
      have extended : (evaluator.unroll run (count + 1)).run begun = _ :=
        (run_bind_of_ok ran).trans (run_extend next count after)
      exact ⟨_, _, extended, kept.concat rfl rfl, watch, ready.extend⟩

theorem run_begin (constraint : Option Formula) (session : Session σ) :
    (evaluator.begin constraint).run session =
      .ok { formulas := evaluator.task.initial :: constraint.toList, watch := .start session.now }
        { session with journal := session.journal ++ [.request evaluator.seat .initial] } :=
  rfl

/-! ### One query -/

/-- The planned value or error is come to, after these questions and reports. -/
inductive Performs (evaluator : Evaluator σ) (constraint : Option Formula) {α : Type} (run : Run)
    (session : Session σ) (questions : List Question) (reports : List Report) :
    Except CheckError α → EStateM.Result CheckError (Session σ) (α × Run) → Prop where
  | ok {value : α} {next : Run} {after : Session σ} :
      evaluator.Proceeds constraint session after questions reports →
      run.Advances questions.length next →
      Performs evaluator constraint run session questions reports (.ok value)
        (.ok (value, next) after)
  | error {problem : CheckError} {after : Session σ} :
      evaluator.Proceeds constraint session after questions reports →
      Performs evaluator constraint run session questions reports (.error problem)
        (.error problem after)

section Performs

variable {α β : Type} {session begun middle after : Session σ} {questions : List Question}
  {reports : List Report} {plan : Except CheckError α} {action : EvalM σ β}
  {next : β → EvalM σ (α × Run)} {value : β}

theorem Performs.bind_run (ran : action.run begun = .ok value middle)
    (rest : evaluator.Performs constraint run session questions reports plan
      ((next value).run middle)) :
    evaluator.Performs constraint run session questions reports plan
      ((action >>= next).run begun) := by
  rw [EStateM.run_bind, ran]
  exact rest

theorem Performs.bind_error {problem : CheckError} (ran : action.run begun = .error problem after)
    (proceeds : evaluator.Proceeds constraint session after questions reports) :
    evaluator.Performs constraint run session questions reports (.error problem)
      ((action >>= next).run begun) := by
  rw [EStateM.run_bind, ran]
  exact .error proceeds

/-- More questions and reports after those that came before. -/
theorem Performs.prepend {later : Run} {more : List Question} {further : List Report}
    {result : EStateM.Result CheckError (Session σ) (α × Run)}
    (proceeds : evaluator.Proceeds constraint session middle questions reports)
    (advances : run.Advances questions.length later)
    (rest : evaluator.Performs constraint later middle more further plan result) :
    evaluator.Performs constraint run session (questions ++ more) (reports ++ further) plan result := by
  cases rest with
  | ok proceedsOn advancesOn =>
      refine .ok (proceeds.trans proceedsOn) ?_
      rw [List.length_append]
      exact advances.trans advancesOn
  | error proceedsOn => exact .error (proceeds.trans proceedsOn)

end Performs

section Replies

variable {question : Question} {moment : Moment σ}

theorem records_of_ok {result : SatResult}
    (answered : (evaluator.oracle.checkAll
      (evaluator.task.query constraint question.timestep question.phase) moment.oracle).answer =
        .ok result) :
    evaluator.records constraint question moment =
      [.query ⟨evaluator.label, question.timestep, question.phase,
        (evaluator.oracle.checkAll (evaluator.task.query constraint question.timestep question.phase)
          moment.oracle).took, result⟩] := by
  have exchanged : (evaluator.inquire constraint question moment).exchange = .answered result _ :=
    Oracle.exchange_eq_answered_iff.mpr (Oracle.response_eq_ok_iff.mpr ⟨answered, rfl⟩)
  rw [records, Inquiry.record?_of_answered exchanged]
  rfl

theorem hears_of_ok {result : SatResult}
    (answered : (evaluator.oracle.checkAll
      (evaluator.task.query constraint question.timestep question.phase) moment.oracle).answer =
        .ok result) :
    (evaluator.hears constraint question moment).map Prod.fst =
      (evaluator.filing question.phase question.timestep result).map fun _ => result := by
  unfold hears respond Oracle.response
  rw [answered, Except.map, hear]
  cases evaluator.filing question.phase question.timestep result <;> rfl

variable {message : String}
  (failed : (evaluator.oracle.checkAll
    (evaluator.task.query constraint question.timestep question.phase) moment.oracle).answer =
      .error message)

include failed

theorem records_of_error : evaluator.records constraint question moment = [] := by
  rcases evaluator.oracle.exchange_cases
      (evaluator.task.query constraint question.timestep question.phase) moment.oracle with
    ⟨_, answered, _⟩ | ⟨_, _, exchanged⟩
  · rw [failed] at answered
    cases answered
  · rw [records, Inquiry.record?_of_failed exchanged]
    rfl

theorem hears_of_error :
    evaluator.hears constraint question moment = .error (.oracle question.timestep message) := by
  unfold hears respond Oracle.response
  rw [failed]
  rfl

end Replies

theorem proceeds_report (content : Report) (session : Session σ) :
    evaluator.Proceeds constraint session
      { session with journal := session.journal ++ [.report evaluator.reporter content] } []
      [content] :=
  ⟨rfl, [.report evaluator.reporter content], rfl, rfl, List.forall_mem_singleton.mpr rfl⟩

theorem proceeds_askOracle (question : Question) (session : Session σ) :
    evaluator.Proceeds constraint session
      ((evaluator.askOracle
        (evaluator.task.query constraint question.timestep question.phase)).final session)
      [question] [] :=
  ⟨rfl, [.note (.conjunction _)], rfl, rfl, List.forall_mem_singleton.mpr rfl⟩

/-- The files of a query are written, or the first that cannot be ends the evaluation. -/
theorem file_performs (parts : List Formula) (phase : Phase) (timestep : Nat) (result : SatResult)
    {run next : Run} {session middle : Session σ} {questions : List Question}
    {reports : List Report}
    (proceeds : evaluator.Proceeds constraint session middle questions reports)
    (advances : run.Advances questions.length next) :
    evaluator.Performs constraint run session questions reports
      ((evaluator.filing phase timestep result).map fun _ => result)
      ((match evaluator.dump with
        | some folder => do
            evaluator.dumpQuery folder parts phase timestep result
            return (result, next)
        | none => return (result, next) : EvalM σ (SatResult × Run)).run middle) := by
  cases place : evaluator.dump with
  | none =>
      rw [filing, place]
      exact .ok proceeds advances
  | some folder =>
      have keeps := dumpQuery_keeps place parts phase timestep result middle
      simp only [EStateM.run_bind]
      generalize (evaluator.dumpQuery folder parts phase timestep result).run middle = filed
        at keeps ⊢
      generalize evaluator.filing phase timestep result = plan at keeps ⊢
      cases keeps with
      | ok kept => exact .ok (proceeds.unmoved kept) advances
      | error kept => exact .error (proceeds.unmoved kept)

theorem ask_performs (unrolled : run.formulas = evaluator.task.unrolled constraint timestep)
    (phase : Phase) (session : Session σ) :
    evaluator.Performs constraint run session [⟨timestep, phase⟩]
      (evaluator.records constraint ⟨timestep, phase⟩ session.moment)
      ((evaluator.hears constraint ⟨timestep, phase⟩ session.moment).map Prod.fst)
      ((evaluator.ask run (evaluator.task.violation timestep) phase timestep).run session) := by
  have question := query_of_unrolled unrolled phase
  have asked : evaluator.Proceeds constraint session
      ((evaluator.askOracle (evaluator.task.query constraint timestep phase)).final session)
      [⟨timestep, phase⟩] [] := proceeds_askOracle ⟨timestep, phase⟩ session
  refine .bind_run (run_now session) (.bind_run (run_askOracle evaluator _ session) ?_)
  rw [question]
  cases answered : (evaluator.oracle.checkAll
      (evaluator.task.query constraint timestep phase) session.oracle).answer with
  | error message =>
      rw [records_of_error answered, hears_of_error answered]
      exact .error asked
  | ok result =>
      rw [records_of_ok answered, hears_of_ok answered]
      have lapped (took : Nanoseconds) :
          (run.watch.startLap session.now).lap (session.now + took) = took :=
        Nat.add_sub_cancel_left ..
      have reported := asked.trans (proceeds_report (.query ⟨evaluator.label, timestep, phase,
        (evaluator.oracle.checkAll (evaluator.task.query constraint timestep phase)
          session.oracle).took, result⟩) _)
      refine .bind_run (run_now _) (.bind_run (run_report evaluator _ _) ?_)
      rw [lapped]
      exact file_performs _ phase timestep result reported ⟨rfl, rfl, rfl, rfl⟩

section Heard

variable {phase : Phase} {session : Session σ} {moment : Moment σ}
  (unrolled : run.formulas = evaluator.task.unrolled constraint timestep)
  (here : session.moment = moment)

include unrolled here

theorem ask_of_error {problem : CheckError}
    (heard : evaluator.hears constraint ⟨timestep, phase⟩ moment = .error problem) :
    ∃ after,
      (evaluator.ask run (evaluator.task.violation timestep) phase timestep).run session =
        .error problem after ∧
      evaluator.Proceeds constraint session after [⟨timestep, phase⟩]
        (evaluator.records constraint ⟨timestep, phase⟩ moment) := by
  have performs := ask_performs unrolled phase session
  rw [here, heard] at performs
  generalize (evaluator.ask run (evaluator.task.violation timestep) phase timestep).run session =
    answer at performs ⊢
  cases performs with
  | error proceeds => exact ⟨_, rfl, proceeds⟩

theorem ask_of_ok {result : SatResult} {offered : Option Model}
    (heard : evaluator.hears constraint ⟨timestep, phase⟩ moment = .ok (result, offered)) :
    ∃ next after,
      (evaluator.ask run (evaluator.task.violation timestep) phase timestep).run session =
        .ok (result, next) after ∧
      evaluator.Proceeds constraint session after [⟨timestep, phase⟩]
        (evaluator.records constraint ⟨timestep, phase⟩ moment) ∧
      run.Advances 1 next ∧ evaluator.oracle.model after.oracle = offered := by
  have performs := ask_performs unrolled phase session
  rw [here, heard] at performs
  generalize (evaluator.ask run (evaluator.task.violation timestep) phase timestep).run session =
    answer at performs ⊢
  cases performs with
  | @ok _ next after proceeds advances =>
      have reached : after.oracle = (evaluator.later constraint ⟨timestep, phase⟩ moment).oracle := by
        rw [← here]
        exact congrArg Moment.oracle proceeds.moment
      refine ⟨next, after, rfl, proceeds, advances, ?_⟩
      rw [reached]
      exact model_later (respond_of_hears heard)

end Heard

/-! ### One timestep -/

theorem checkDefinite_performs
    (unrolled : run.formulas = evaluator.task.unrolled constraint timestep)
    {session : Session σ} {model : Model} {trace : Trace}
    (offered : evaluator.oracle.model session.oracle = some model)
    (decoded : model.decode evaluator.program evaluator.property timestep = .ok trace) :
    evaluator.Performs constraint run session [.definite timestep]
      (.trace evaluator.label timestep trace ::
        evaluator.records constraint (.definite timestep) session.moment)
      ((evaluator.settle timestep trace
        (evaluator.hears constraint (.definite timestep) session.moment)).map some)
      ((evaluator.checkDefinite run (evaluator.task.violation timestep) timestep).run session) := by
  have shown : evaluator.Proceeds constraint session _ _ _ :=
    proceeds_report (.trace evaluator.label timestep trace) session
  refine .bind_run (run_currentTrace offered decoded) (.bind_run (run_report evaluator _ session) ?_)
  cases heard : evaluator.hears constraint (.definite timestep) session.moment with
  | error problem =>
      obtain ⟨after, failed, asked⟩ := ask_of_error unrolled (by exact shown.moment) heard
      exact .bind_error failed (shown.trans asked)
  | ok given =>
      obtain ⟨result, again⟩ := given
      obtain ⟨next, after, answered, asked, advances, atHand⟩ :=
        ask_of_ok unrolled (by exact shown.moment) heard
      refine .bind_run answered ?_
      cases result with
      | unsat => exact .ok (shown.trans asked) advances
      | unknown reason => exact .ok (shown.trans asked) advances
      | sat =>
          cases again with
          | none =>
              exact .bind_error (run_currentTrace_of_none atHand)
                ((shown.trans asked).unmoved ((unmoved_self after).concat rfl rfl))
          | some second =>
              have decodedAgain := second.decode_eq evaluator.program evaluator.property timestep
              rw [settle_granted decodedAgain]
              refine .bind_run (run_currentTrace atHand decodedAgain) ?_
              exact .ok (shown.trans asked) advances

theorem checkTimestep_overtime {seconds : Nat} {session : Session σ}
    (spent : (evaluator.budget.filter fun seconds =>
      run.watch.exceeds session.now (.ofSeconds seconds)) = some seconds) :
    evaluator.Performs constraint run session [] []
      (.ok (some ⟨.inconclusive
        s!"{evaluator.label} used up its {seconds}s budget before timestep {timestep}", none⟩))
      ((evaluator.checkTimestep run timestep).run session) := by
  have budgeted : (evaluator.spentBudget run).run session = _ := run_spentBudget run session
  rw [spent] at budgeted
  refine .bind_run budgeted (.bind_run (run_note _ session) ?_)
  exact .ok ((unmoved_self session).concat rfl rfl).proceeds ⟨rfl, rfl, rfl, rfl⟩

/-- A timestep is cleared, or the course stops there. -/
theorem checkTimestep_performs
    (unrolled : run.formulas = evaluator.task.unrolled constraint timestep) (session : Session σ) :
    (∃ offered,
      ¬evaluator.OutOfTime (session.now - run.watch.started) ∧
      evaluator.hears constraint (.possible timestep) session.moment = .ok (.unsat, offered) ∧
      evaluator.Performs constraint run session [.possible timestep]
        (evaluator.records constraint (.possible timestep) session.moment) (.ok none)
        ((evaluator.checkTimestep run timestep).run session)) ∨
    ∃ questions reports result,
      evaluator.Stops constraint run.watch.started timestep session.moment questions reports result ∧
      evaluator.Performs constraint run session questions reports (result.map some)
        ((evaluator.checkTimestep run timestep).run session) := by
  cases spent : evaluator.budget.filter fun seconds =>
      run.watch.exceeds session.now (.ofSeconds seconds) with
  | some seconds =>
      obtain ⟨present, late⟩ := Option.filter_eq_some_iff.mp spent
      exact Or.inr ⟨[], [], _, .overtime present (of_decide_eq_true late),
        checkTimestep_overtime spent⟩
  | none =>
      have early := (filter_exceeds_eq_none_iff _ _).mp spent
      have budgeted : (evaluator.spentBudget run).run session = _ := run_spentBudget run session
      rw [spent] at budgeted
      rw [checkTimestep, run_bind_of_ok budgeted]
      dsimp only
      rw [run_bind_of_ok (run_note _ session), run_bind_of_ok (run_record _ _)]
      have kept := ((unmoved_self session).concat
        (rfl : (Entry.note (.checking evaluator.label timestep)).report? = none) rfl).concat
        (rfl : (Entry.request evaluator.seat .violation).report? = none) rfl
      have entered : evaluator.Proceeds constraint session _ [] [] := kept.proceeds
      cases heard : evaluator.hears constraint (.possible timestep) session.moment with
      | error problem =>
          obtain ⟨after, failed, asked⟩ := ask_of_error unrolled kept.moment heard
          refine Or.inr ⟨_, _, _, .refused early heard, ?_⟩
          exact .bind_error failed (entered.trans asked)
      | ok given =>
          obtain ⟨result, offered⟩ := given
          obtain ⟨next, after, answered, asked, advances, atHand⟩ :=
            ask_of_ok unrolled kept.moment heard
          have proceeds := entered.trans asked
          cases result with
          | unsat => exact Or.inl ⟨offered, early, rfl, .bind_run answered (.ok proceeds advances)⟩
          | unknown reason =>
              refine Or.inr ⟨_, _, _, .undecided early heard, ?_⟩
              exact .bind_run answered (.ok proceeds advances)
          | sat =>
              cases offered with
              | none =>
                  refine Or.inr ⟨_, _, _, .modelless early heard, .bind_run answered ?_⟩
                  exact .bind_error (run_currentTrace_of_none atHand)
                    (proceeds.unmoved ((unmoved_self after).concat rfl rfl))
              | some model =>
                  have decoded := model.decode_eq evaluator.program evaluator.property timestep
                  have reached : after.moment =
                      evaluator.later constraint (.possible timestep) session.moment := proceeds.moment
                  have settled :=
                    checkDefinite_performs (advances.formulas.trans unrolled) atHand decoded
                  rw [reached] at settled
                  refine Or.inr ⟨_, _, _, .settled early heard decoded, .bind_run answered ?_⟩
                  exact .prepend proceeds advances settled

/-! ### Whole evaluations -/

/-- The report of the outcome, if there is one. -/
def closing (evaluator : Evaluator σ) (answer : Except CheckError Outcome) : List Report :=
  (answer.toOption.map (.outcome evaluator.label)).toList

/-- The answer, the reports and the last moment of an evaluation are those of a course. `queries` have
been asked before. -/
structure Follows (evaluator : Evaluator σ) (constraint : Option Formula) (began : Nanoseconds)
    (queries : Nat) (action : EvalM σ Outcome) (session : Session σ) (questions : List Question)
    (reports : List Report) (halt : Halt) : Prop where
  answer : action.answer session =
    halt.answer ((evaluator.reached constraint questions session.moment).now - began)
      (queries + questions.length)
  proceeds : evaluator.Proceeds constraint session (action.final session) questions
    (reports ++ evaluator.closing (action.answer session))

theorem finish_answer (evaluator : Evaluator σ) (run : Run) (timestep : Nat) (finding : Finding)
    (session : Session σ) :
    (evaluator.finish run timestep finding).answer session = .ok {
      verdict := finding.verdict
      timestep
      trace := finding.trace
      elapsed := run.watch.total session.now
      queries := run.queries
      extensions := run.extensions } :=
  rfl

theorem finish_follows {queries : Nat} (ready : evaluator.Ready constraint timestep queries run)
    (place : Nat) (finding : Finding) (session : Session σ) :
    evaluator.Follows constraint run.watch.started queries (evaluator.finish run place finding)
      session [] [] ⟨place, run.extensions, .ok finding⟩ where
  answer := by
    rw [finish_answer, ready.queries]
    rfl
  proceeds := proceeds_report _ session

theorem Follows.prepend {began : Nanoseconds} {queries : Nat} {action rest : EvalM σ Outcome}
    {session middle : Session σ} {questions more : List Question} {reports further : List Report}
    {halt : Halt} (proceeds : evaluator.Proceeds constraint session middle questions reports)
    (same : action.run session = rest.run middle)
    (follows : evaluator.Follows constraint began (queries + questions.length) rest middle more further
      halt) :
    evaluator.Follows constraint began queries action session (questions ++ more)
      (reports ++ further) halt := by
  have answers : action.answer session = rest.answer middle := by
    unfold EvalM.answer
    rw [same]
  have ends : action.final session = rest.final middle := by
    unfold EvalM.final
    rw [same]
  constructor
  · rw [answers, follows.answer, proceeds.moment, List.length_append, Nat.add_assoc, reached_append]
  · rw [answers, ends, List.append_assoc]
    exact proceeds.trans follows.proceeds

theorem Follows.of_error {began : Nanoseconds} {queries timestep extensions : Nat}
    {action : EvalM σ Outcome} {session after : Session σ} {questions : List Question}
    {reports : List Report} {problem : CheckError} (failed : action.run session = .error problem after)
    (proceeds : evaluator.Proceeds constraint session after questions reports) :
    evaluator.Follows constraint began queries action session questions reports
      ⟨timestep, extensions, .error problem⟩ := by
  have answers : action.answer session = .error problem := by
    unfold EvalM.answer
    rw [failed]
  have ends : action.final session = after := by
    unfold EvalM.final
    rw [failed]
  constructor
  · rw [answers]
    rfl
  · rw [answers, ends]
    exact (List.append_nil reports).symm ▸ proceeds

theorem scan_of_stops {bound count queries : Nat} {session : Session σ} {questions : List Question}
    {reports : List Report} {result : Except CheckError Finding}
    (ready : evaluator.Ready constraint timestep queries run)
    (performs : evaluator.Performs constraint run session questions reports (result.map some)
      ((evaluator.checkTimestep run timestep).run session)) :
    evaluator.Follows constraint run.watch.started queries
      (evaluator.scan bound (count + 1) timestep run) session questions reports
      ⟨timestep, timestep, result⟩ := by
  generalize checked : (evaluator.checkTimestep run timestep).run session = answer at performs
  cases result with
  | error problem =>
      cases performs with
      | @error _ after proceeds =>
          have failed : (evaluator.scan bound (count + 1) timestep run).run session =
              .error problem after := by
            rw [scan, EStateM.run_bind, checked]
          exact .of_error failed proceeds
  | ok finding =>
      cases performs with
      | @ok _ next middle proceeds advances =>
          have asked := ready.asked advances
          have finished := finish_follows asked timestep finding middle
          rw [asked.extensions, advances.started] at finished
          have same : (evaluator.scan bound (count + 1) timestep run).run session =
              (evaluator.finish next timestep finding).run middle := by
            rw [scan, run_bind_of_ok checked]
          have followed := Follows.prepend proceeds same finished
          rw [List.append_nil, List.append_nil] at followed
          exact followed

theorem scan_course {bound count queries : Nat} (window : timestep + count = bound + 1)
    (ready : evaluator.Ready constraint timestep queries run) (session : Session σ) :
    ∃ questions reports halt,
      evaluator.Course constraint bound run.watch.started timestep session.moment questions reports
        halt ∧
      evaluator.Follows constraint run.watch.started queries
        (evaluator.scan bound count timestep run) session questions reports halt := by
  induction count generalizing timestep run queries session with
  | zero =>
      have passed : timestep = bound + 1 := window
      refine ⟨[], [], _, .exhausted passed, ?_⟩
      have followed := finish_follows ready bound ⟨.noErrorFound, none⟩ session
      rw [ready.extensions, passed] at followed
      exact followed
  | succ count ih =>
      have within : timestep ≤ bound := by omega
      rcases checkTimestep_performs ready.unrolled session with
        ⟨offered, early, heard, performs⟩ | ⟨questions, reports, result, stops, performs⟩
      · generalize checked : (evaluator.checkTimestep run timestep).run session = answer at performs
        cases performs with
        | @ok _ next middle proceeds advances =>
            have kept := (unmoved_self middle).concat
              (rfl : (Entry.request evaluator.seat .transition).report? = none) rfl
            have extended := proceeds.unmoved kept
            obtain ⟨questions, reports, halt, course, follows⟩ := ih (by omega)
              (ready.asked advances).extend
              { middle with journal := middle.journal ++ [.request evaluator.seat .transition] }
            have started : (next.extend (evaluator.task.transition timestep)).watch.started =
                run.watch.started := advances.started
            rw [started, extended.moment] at course
            rw [started] at follows
            refine ⟨_, _, halt, .cleared within early heard course, .prepend extended ?_ follows⟩
            rw [scan, run_bind_of_ok checked]
            exact run_bind_of_ok (run_extend next timestep middle)
      · exact ⟨questions, reports, _, .stopped within stops, scan_of_stops ready performs⟩

theorem evaluate_course (evaluator : Evaluator σ) {bound start : Nat} (window : start ≤ bound)
    (constraint : Option Formula) (session : Session σ) :
    ∃ questions reports halt,
      evaluator.Course constraint bound session.now start session.moment questions reports halt ∧
      evaluator.Follows constraint session.now 0 (evaluator.evaluate bound start constraint) session
        questions reports halt := by
  have begun := (unmoved_self session).concat
    (rfl : (Entry.request evaluator.seat .initial).report? = none) rfl
  obtain ⟨next, middle, unrolled, kept, watch, ready⟩ :=
    run_unroll begun (evaluator.ready_begun constraint (.start session.now)) start
  have started : next.watch.started = session.now := congrArg Stopwatch.started watch
  obtain ⟨questions, reports, halt, course, follows⟩ :=
    scan_course (by omega : start + (bound + 1 - start) = bound + 1) ready middle
  rw [started, kept.moment] at course
  rw [started] at follows
  refine ⟨questions, reports, halt, course, .prepend kept.proceeds ?_ follows⟩
  rw [evaluate, if_neg (Nat.not_lt.mpr window), run_bind_of_ok (run_begin constraint session),
    run_bind_of_ok unrolled]

theorem evaluate_of_lt {bound start : Nat} (beyond : bound < start) (constraint : Option Formula) :
    evaluator.evaluate bound start constraint =
      throw (.configuration (.startBeyondBound start bound)) := by
  rw [evaluate, if_pos beyond]

end Evaluator

end Trivalent
