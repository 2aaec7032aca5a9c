import Mathlib.Algebra.GroupWithZero.Nat
import Trivalent.Proofs.Evaluator.Response
import Trivalent.Proofs.Evaluator.Transcript

/-!
Queries in a row, outside of any evaluation. `interview` asks an oracle some questions one after the
other and notes what came of each, when it was asked and how long it took; `reached` is the state of
the oracle and of the clock after that. What an evaluation does is stated in these terms: between two
sessions the oracle is asked these questions, and these reports are made (`Passes`), while entries are
only added to the journal (`Proceeds`).
-/

set_option autoImplicit false

namespace Trivalent

variable {σ : Type}

/-! ### Interviews -/

/-- The state of an oracle at a time. -/
structure Moment (σ : Type) where
  oracle : σ
  now : Nanoseconds

def Session.moment (session : Session σ) : Moment σ := ⟨session.oracle, session.now⟩

structure Question where
  timestep : Nat
  phase : Phase

namespace Question

def possible (timestep : Nat) : Question := ⟨timestep, .possible⟩

def definite (timestep : Nat) : Question := ⟨timestep, .definite⟩

end Question

/-- Is a violation possible, timestep after timestep? -/
def sweep (start stop : Nat) : List Question := (List.range' start (stop - start)).map .possible

theorem sweep_self (timestep : Nat) : sweep timestep timestep = [] := by
  rw [sweep, Nat.sub_self]
  rfl

theorem sweep_of_lt {start stop : Nat} (before : start < stop) :
    sweep start stop = .possible start :: sweep (start + 1) stop := by
  have count : stop - start = stop - (start + 1) + 1 := by omega
  rw [sweep, count, List.range'_succ]
  rfl

theorem sweep_succ {start stop : Nat} (window : start ≤ stop) :
    sweep start (stop + 1) = sweep start stop ++ [.possible stop] := by
  have count : stop + 1 - start = stop - start + 1 := by omega
  have last : start + (stop - start) = stop := by omega
  rw [sweep, count, List.range'_1_concat, List.map_append, last]
  rfl

theorem length_sweep (start stop : Nat) : (sweep start stop).length = stop - start := by
  rw [sweep, List.length_map, List.length_range']

/-- A question with what came of it, the time at which it was asked and the time it took. -/
structure Inquiry extends Block where
  begun : Nanoseconds
  took : Nanoseconds

theorem Oracle.exchange_eq_answered_iff {oracle : Oracle σ} {parts : List Formula} {state : σ}
    {result : SatResult} {offered : Option Model} :
    oracle.exchange (Formula.conj parts) state = .answered result offered ↔
      oracle.response parts state = .ok (result, offered) := by
  rw [response_eq_ok_iff]
  rcases oracle.exchange_cases parts state with ⟨given, answered, exchanged⟩ | ⟨_, failed, exchanged⟩
  · rw [answered, exchanged, Exchange.answered.injEq, Except.ok.injEq]
  · constructor
    · intro contrary
      rw [contrary] at exchanged
      cases exchanged
    · intro contrary
      rw [failed] at contrary
      cases contrary.1

namespace Evaluator

variable (evaluator : Evaluator σ) (constraint : Option Formula)

/-- What the oracle responds to a question. -/
def respond (question : Question) (moment : Moment σ) : Response :=
  evaluator.oracle.response
    (evaluator.task.query constraint question.timestep question.phase) moment.oracle

def inquire (question : Question) (moment : Moment σ) : Inquiry :=
  let parts := evaluator.task.query constraint question.timestep question.phase
  { timestep := question.timestep
    phase := question.phase
    exchange := evaluator.oracle.exchange (Formula.conj parts) moment.oracle
    begun := moment.now
    took := (evaluator.oracle.checkAll parts moment.oracle).took }

/-- The moment after a question. -/
def later (question : Question) (moment : Moment σ) : Moment σ :=
  let reply := evaluator.oracle.checkAll
    (evaluator.task.query constraint question.timestep question.phase) moment.oracle
  ⟨reply.state, moment.now + reply.took⟩

def interview : List Question → Moment σ → List Inquiry
  | [], _ => []
  | question :: rest, moment =>
      evaluator.inquire constraint question moment ::
        interview rest (evaluator.later constraint question moment)

/-- The moment after several questions. -/
def reached (questions : List Question) (moment : Moment σ) : Moment σ :=
  questions.foldl (fun moment question => evaluator.later constraint question moment) moment

variable {evaluator constraint}

theorem exchange_inquire_iff {question : Question} {moment : Moment σ} {result : SatResult}
    {offered : Option Model} :
    (evaluator.inquire constraint question moment).exchange = .answered result offered ↔
      evaluator.respond constraint question moment = .ok (result, offered) :=
  Oracle.exchange_eq_answered_iff

theorem model_later {question : Question} {moment : Moment σ} {result : SatResult}
    {offered : Option Model}
    (responded : evaluator.respond constraint question moment = .ok (result, offered)) :
    evaluator.oracle.model (evaluator.later constraint question moment).oracle = offered :=
  (Oracle.response_eq_ok_iff.mp responded).2

theorem interview_eq_nil_iff {questions : List Question} {moment : Moment σ} :
    evaluator.interview constraint questions moment = [] ↔ questions = [] := by
  cases questions with
  | nil => exact iff_of_true rfl rfl
  | cons _ _ => exact iff_of_false (List.cons_ne_nil _ _) (List.cons_ne_nil _ _)

theorem interview_append (questions rest : List Question) (moment : Moment σ) :
    evaluator.interview constraint (questions ++ rest) moment =
      evaluator.interview constraint questions moment ++
        evaluator.interview constraint rest (evaluator.reached constraint questions moment) := by
  induction questions generalizing moment with
  | nil => rfl
  | cons question others ih => exact congrArg (List.cons _) (ih _)

theorem reached_append (questions rest : List Question) (moment : Moment σ) :
    evaluator.reached constraint (questions ++ rest) moment =
      evaluator.reached constraint rest (evaluator.reached constraint questions moment) :=
  List.foldl_append

theorem reached_sweep_of_lt {start stop : Nat} {moment : Moment σ} (before : start < stop) :
    evaluator.reached constraint (sweep start stop) moment =
      evaluator.reached constraint (sweep (start + 1) stop)
        (evaluator.later constraint (.possible start) moment) := by
  rw [sweep_of_lt before]
  rfl

/-- A sweep timestep by timestep, each at the moment that the sweep before it has reached. -/
theorem interview_sweep (start stop : Nat) (moment : Moment σ) :
    evaluator.interview constraint (sweep start stop) moment =
      (List.range' start (stop - start)).map fun timestep =>
        evaluator.inquire constraint (.possible timestep)
          (evaluator.reached constraint (sweep start timestep) moment) := by
  induction stop with
  | zero =>
      rw [sweep, Nat.zero_sub]
      rfl
  | succ stop ih =>
      by_cases window : start ≤ stop
      · have count : stop + 1 - start = stop - start + 1 := by omega
        have last : start + (stop - start) = stop := by omega
        rw [sweep_succ window, interview_append, ih, count, List.range'_1_concat, List.map_append, last]
        rfl
      · have count : stop + 1 - start = 0 := by omega
        rw [sweep, count]
        rfl

theorem mem_interview_sweep_iff {start stop : Nat} {moment : Moment σ} {inquiry : Inquiry} :
    inquiry ∈ evaluator.interview constraint (sweep start stop) moment ↔
      ∃ timestep, start ≤ timestep ∧ timestep < stop ∧
        inquiry = evaluator.inquire constraint (.possible timestep)
          (evaluator.reached constraint (sweep start timestep) moment) := by
  rw [interview_sweep, List.mem_map]
  constructor
  · rintro ⟨timestep, member, rfl⟩
    have within := List.mem_range'_1.mp member
    exact ⟨timestep, by omega, by omega, rfl⟩
  · rintro ⟨timestep, above, below, rfl⟩
    exact ⟨timestep, List.mem_range'_1.mpr (by omega), rfl⟩

/-- Time passes only while the oracle is asked. -/
theorem now_reached (questions : List Question) (moment : Moment σ) :
    (evaluator.reached constraint questions moment).now =
      moment.now +
        ((evaluator.interview constraint questions moment).map Inquiry.took).sum := by
  induction questions generalizing moment with
  | nil => rfl
  | cons question rest ih =>
      have first : (evaluator.later constraint question moment).now =
          moment.now + (evaluator.inquire constraint question moment).took := rfl
      rw [interview, List.map_cons, List.sum_cons, ← Nat.add_assoc, ← first]
      exact ih _

end Evaluator

/-! ### The journal -/

def Entry.report? : Entry → Option (Reporter × Report)
  | .report reporter content => some (reporter, content)
  | _ => none

/-- The timestep from which an evaluation is announced. -/
def Entry.start? : Entry → Option Nat
  | .note (.abstractRound _ start _) => some start
  | .note (.replay _ timestep) => some timestep
  | .note (.retest timestep) => some timestep
  | _ => none

namespace Session

/-- Everything that reporters were told. -/
def told (session : Session σ) : List (Reporter × Report) :=
  session.journal.filterMap Entry.report?

/-- Between two sessions entries are added, these reports among them, and no evaluation is
announced. -/
def Adds (session after : Session σ) (reports : List (Reporter × Report)) : Prop :=
  ∃ written, after.journal = session.journal ++ written ∧
    written.filterMap Entry.report? = reports ∧ ∀ entry ∈ written, entry.start? = none

variable {session middle after : Session σ} {reports more : List (Reporter × Report)}

theorem told_concat {entry : Entry} (unreported : entry.report? = none) :
    told { after with journal := after.journal ++ [entry] } = after.told := by
  rw [told, List.filterMap_append, List.filterMap_cons_none unreported]
  exact List.append_nil _

theorem adds_nil (same : after.journal = session.journal) : session.Adds after [] :=
  ⟨[], same.trans (List.append_nil _).symm, rfl, List.forall_mem_nil _⟩

theorem Adds.trans (first : session.Adds middle reports) (second : middle.Adds after more) :
    session.Adds after (reports ++ more) := by
  obtain ⟨written, journal, told, quiet⟩ := first
  obtain ⟨rest, later, toldLater, quietLater⟩ := second
  refine ⟨written ++ rest, ?_, ?_, List.forall_mem_append.mpr ⟨quiet, quietLater⟩⟩
  · rw [later, journal, List.append_assoc]
  · rw [List.filterMap_append, told, toldLater]

theorem Adds.told_eq (adds : session.Adds after reports) : after.told = session.told ++ reports := by
  obtain ⟨written, journal, told, _⟩ := adds
  rw [Session.told, journal, List.filterMap_append, told]
  rfl

end Session

namespace Inquiry

/-- The record of a question that was answered. -/
def record? (label : String) (inquiry : Inquiry) : Option QueryRecord :=
  match inquiry.exchange with
  | .answered result _ =>
      some ⟨label, inquiry.timestep, inquiry.phase, inquiry.took, result⟩
  | _ => none

theorem record?_of_answered {inquiry : Inquiry} {result : SatResult} {offered : Option Model}
    (answered : inquiry.exchange = .answered result offered) (label : String) :
    inquiry.record? label =
      some ⟨label, inquiry.timestep, inquiry.phase, inquiry.took, result⟩ := by
  rw [record?, answered]

theorem record?_of_failed {inquiry : Inquiry} {message : String}
    (failed : inquiry.exchange.answer = .error message) (label : String) :
    inquiry.record? label = none := by
  unfold record?
  split
  · rename_i answered
    rw [answered] at failed
    cases failed
  · rfl

theorem elapsed_eq_took {inquiry : Inquiry} {label : String} {record : QueryRecord}
    (recorded : inquiry.record? label = some record) : record.elapsed = inquiry.took := by
  unfold record? at recorded
  split at recorded
  · cases recorded
    rfl
  · cases recorded

end Inquiry

namespace Evaluator

variable (evaluator : Evaluator σ) (constraint : Option Formula)

/-- Between two sessions these questions are asked and these reports are made. -/
structure Passes (session after : Session σ) (questions : List Question) (reports : List Report) :
    Prop where
  moment : after.moment = evaluator.reached constraint questions session.moment
  told : after.told = session.told ++ reports.map (evaluator.reporter, ·)

/-- The same, with nothing but additions to the journal. -/
structure Proceeds (session after : Session σ) (questions : List Question)
    (reports : List Report) : Prop where
  moment : after.moment = evaluator.reached constraint questions session.moment
  adds : session.Adds after (reports.map (evaluator.reporter, ·))

variable {evaluator constraint} {session middle after : Session σ}
  {questions rest : List Question} {reports more : List Report}

theorem Proceeds.passes (proceeds : evaluator.Proceeds constraint session after questions reports) :
    evaluator.Passes constraint session after questions reports :=
  ⟨proceeds.moment, proceeds.adds.told_eq⟩

theorem Proceeds.trans (first : evaluator.Proceeds constraint session middle questions reports)
    (second : evaluator.Proceeds constraint middle after rest more) :
    evaluator.Proceeds constraint session after (questions ++ rest) (reports ++ more) where
  moment := by rw [second.moment, first.moment, reached_append]
  adds := by
    rw [List.map_append]
    exact first.adds.trans second.adds

end Evaluator

end Trivalent
