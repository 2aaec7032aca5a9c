import Trivalent.Oracle.Bench
import Trivalent.Proofs.Evaluator.Agreement
import Trivalent.Proofs.Evaluator.Decision

/-!
The queries of one evaluation, whatever the oracle answers. They are asked one after the other, each
as a block of a reset, an assertion and a check. Timesteps are cleared in order by queries for a
possible violation; at the last timestep a query for a definite one may follow, and nothing follows
that (`evaluate_follows_protocol`).
-/

set_option autoImplicit false

namespace Trivalent

variable {σ : Type}

/-! ### Interviews of a recording oracle -/

def Moment.recording (moment : Moment σ) (log : List Call) : Moment (σ × List Call) :=
  ⟨(moment.oracle, log), moment.now⟩

theorem EvalM.final_of_recorded {α : Type} {action : EvalM σ α} {session : Session σ}
    {companion : EvalM (σ × List Call) α} {beside : Session (σ × List Call)} {log : List Call}
    (ran : companion.run beside = recorded log (action.run session)) :
    companion.final beside = (action.final session).recording log := by
  unfold final
  rw [ran]
  cases action.run session with
  | ok value after => rfl
  | error problem after => rfl

namespace Evaluator

open EvalM

variable {evaluator : Evaluator σ} {constraint : Option Formula}

theorem inquire_recording (question : Question) (moment : Moment σ) (log : List Call) :
    evaluator.recording.inquire constraint question (moment.recording log) =
      evaluator.inquire constraint question moment := by
  have took : (evaluator.recording.oracle.checkAll
      (evaluator.task.query constraint question.timestep question.phase) (moment.oracle, log)).took =
        (evaluator.oracle.checkAll
          (evaluator.task.query constraint question.timestep question.phase) moment.oracle).took :=
    congrArg Reply.took (Oracle.checkAll_recording ..)
  unfold inquire
  exact congrArg _ took

/-- A question adds the calls of its block to the log. -/
theorem later_recording (question : Question) (moment : Moment σ) (log : List Call) :
    evaluator.recording.later constraint question (moment.recording log) =
      (evaluator.later constraint question moment).recording
        (log ++ (evaluator.inquire constraint question moment).toBlock.calls
          evaluator.task constraint) := by
  have asked := evaluator.oracle.checkAll_recording
    (evaluator.task.query constraint question.timestep question.phase) moment.oracle log
  rw [Task.conj_query] at asked
  exact congrArg (fun reply => Moment.mk reply.state (moment.now + reply.took)) asked

theorem interview_recording (questions : List Question) (moment : Moment σ) (log : List Call) :
    evaluator.recording.interview constraint questions (moment.recording log) =
      evaluator.interview constraint questions moment := by
  induction questions generalizing moment log with
  | nil => rfl
  | cons question rest ih => rw [interview, inquire_recording, later_recording, ih, interview]

theorem reached_recording (questions : List Question) (moment : Moment σ) (log : List Call) :
    evaluator.recording.reached constraint questions (moment.recording log) =
      (evaluator.reached constraint questions moment).recording
        (log ++ ((evaluator.interview constraint questions moment).map Inquiry.toBlock).flatMap
          (Block.calls evaluator.task constraint)) := by
  induction questions generalizing moment log with
  | nil => exact congrArg moment.recording (List.append_nil log).symm
  | cons question rest ih =>
      have first : evaluator.recording.reached constraint (question :: rest) (moment.recording log) =
          evaluator.recording.reached constraint rest
            (evaluator.recording.later constraint question (moment.recording log)) := rfl
      rw [first, later_recording, ih, List.append_assoc]
      rfl

/-! ### Courses have transcripts -/

section Transcripts

variable {bound start timestep : Nat} {began final : Nanoseconds} {moment : Moment σ}

/-- The transcript of a sweep up to a timestep, with the query there and perhaps another one. -/
def transcript (evaluator : Evaluator σ) (constraint : Option Formula) (start : Nat)
    (moment : Moment σ) (timestep : Nat) (definite : Option Exchange) : Transcript where
  last := timestep
  offered earlier := evaluator.oracle.model (evaluator.later constraint (.possible earlier)
    (evaluator.reached constraint (sweep start earlier) moment)).oracle
  exchange := (evaluator.inquire constraint (.possible timestep)
    (evaluator.reached constraint (sweep start timestep) moment)).exchange
  definite

theorem Swept.blocks_transcript (swept : evaluator.Swept constraint began start timestep moment)
    (definite : Option Exchange) :
    (evaluator.transcript constraint start moment timestep definite).blocks start =
      (evaluator.interview constraint (sweep start timestep ++ [.possible timestep]) moment).map
          Inquiry.toBlock ++
        definite.toList.map fun exchange => ⟨timestep, .definite, exchange⟩ := by
  have cleared : (evaluator.interview constraint (sweep start timestep) moment).map Inquiry.toBlock =
      (List.range' start (timestep - start)).map fun earlier => .cleared earlier
        ((evaluator.transcript constraint start moment timestep definite).offered earlier) := by
    rw [interview_sweep, List.map_map]
    apply List.map_congr_left
    intro earlier member
    have within := List.mem_range'_1.mp member
    obtain ⟨_, offered, heard⟩ := swept earlier (by omega) (by omega)
    have responded := respond_of_hears heard
    have denied := exchange_inquire_iff.mpr responded
    rw [← model_later responded] at denied
    exact congrArg (Block.mk earlier .possible) denied
  rw [interview_append, List.map_append, cleared, List.append_assoc]
  rfl

theorem halts_of_hears_error (unwritten : evaluator.dump = none) {question : Question}
    {problem : CheckError} (failed : evaluator.hears constraint question moment = .error problem) :
    (evaluator.inquire constraint question moment).exchange.Halts := by
  rcases evaluator.oracle.exchange_cases
      (evaluator.task.query constraint question.timestep question.phase) moment.oracle with
    ⟨result, answered, _⟩ | ⟨message, _, exchanged⟩
  · have responded : evaluator.respond constraint question moment = .ok (result, _) :=
      Oracle.response_eq_ok_iff.mpr ⟨answered, rfl⟩
    rw [hears_of_respond unwritten responded] at failed
    cases failed
  · exact Exchange.halts_of_error exchanged

/-- A sweep that no query follows has come to the bound or run out of time. -/
theorem Swept.exists_transcript (above : start ≤ timestep) (below : timestep ≤ bound)
    (swept : evaluator.Swept constraint began start (timestep + 1) moment)
    (cut : timestep < bound → evaluator.OutOfTime final) :
    ∃ transcript : Transcript,
      (evaluator.interview constraint (sweep start (timestep + 1)) moment).map Inquiry.toBlock =
        transcript.blocks start ∧ transcript.Lawful evaluator bound start final := by
  have before : evaluator.Swept constraint began start timestep moment :=
    fun earlier after sooner => swept earlier after (Nat.lt_succ_of_lt sooner)
  obtain ⟨_, offered, heard⟩ := swept timestep above (Nat.lt_succ_self timestep)
  have denied := exchange_inquire_iff.mpr (respond_of_hears heard)
  refine ⟨evaluator.transcript constraint start moment timestep none, ?_,
    Transcript.lawful_of_denied above below denied rfl cut⟩
  rw [before.blocks_transcript, sweep_succ above]
  exact (List.append_nil _).symm

theorem Stops.exists_transcript (unwritten : evaluator.dump = none) {last : List Question}
    {reports : List Report} {result : Except CheckError Finding}
    (stops : evaluator.Stops constraint began timestep
      (evaluator.reached constraint (sweep start timestep) moment) last reports result)
    (asked : last ≠ []) (swept : evaluator.Swept constraint began start timestep moment)
    (above : start ≤ timestep) (below : timestep ≤ bound) :
    ∃ transcript : Transcript,
      (evaluator.interview constraint (sweep start timestep ++ last) moment).map Inquiry.toBlock =
        transcript.blocks start ∧ transcript.Lawful evaluator bound start final := by
  have halted (halts : (evaluator.inquire constraint (.possible timestep)
      (evaluator.reached constraint (sweep start timestep) moment)).exchange.Halts) :
      ∃ transcript : Transcript,
        (evaluator.interview constraint (sweep start timestep ++ [.possible timestep]) moment).map
          Inquiry.toBlock = transcript.blocks start ∧
        transcript.Lawful evaluator bound start final := by
    refine ⟨evaluator.transcript constraint start moment timestep none, ?_,
      Transcript.lawful_of_halts above below halts rfl⟩
    rw [swept.blocks_transcript]
    exact (List.append_nil _).symm
  cases stops with
  | overtime _ _ => exact absurd rfl asked
  | refused _ failed => exact halted (halts_of_hears_error unwritten failed)
  | undecided _ unknown =>
      apply halted
      rw [exchange_inquire_iff.mpr (respond_of_hears unknown)]
      trivial
  | modelless _ missing =>
      apply halted
      rw [exchange_inquire_iff.mpr (respond_of_hears missing)]
      rfl
  | settled _ granted _ =>
      have exchanged := exchange_inquire_iff.mpr (respond_of_hears granted)
      let second := evaluator.inquire constraint (.definite timestep) (evaluator.reached constraint
        (sweep start timestep ++ [.possible timestep]) moment)
      refine ⟨evaluator.transcript constraint start moment timestep (some second.exchange), ?_,
        Transcript.lawful_of_granted above below exchanged rfl⟩
      rw [swept.blocks_transcript, List.append_cons, interview_append, List.map_append]
      rfl

theorem Course.exists_transcript (unwritten : evaluator.dump = none) {questions : List Question}
    {reports : List Report} {halt : Halt}
    (course : evaluator.Course constraint bound began start moment questions reports halt)
    (window : start ≤ bound) (asked : questions ≠ []) :
    ∃ transcript : Transcript,
      (evaluator.interview constraint questions moment).map Inquiry.toBlock =
        transcript.blocks start ∧
      transcript.Lawful evaluator bound start
        ((evaluator.reached constraint questions moment).now - began) := by
  rcases course.sweeps with ⟨rfl, _, swept⟩ |
    ⟨timestep, last, _, _, above, below, rfl, _, swept, stops⟩
  · apply swept.exists_transcript window (Nat.le_refl bound)
    intro contrary
    exact absurd contrary (Nat.lt_irrefl bound)
  · by_cases silent : last = []
    · subst silent
      rw [List.append_nil] at asked ⊢
      have later : start ≠ timestep := by
        rintro rfl
        exact asked (sweep_self start)
      obtain ⟨place, rfl⟩ := Nat.exists_eq_add_one_of_ne_zero (by omega : timestep ≠ 0)
      apply swept.exists_transcript (by omega) (by omega)
      intro _
      cases stops with
      | overtime present late => exact ⟨_, present, late⟩
    · exact stops.exists_transcript unwritten silent swept above below

theorem Course.questions_eq_nil_iff {questions : List Question} {reports : List Report} {halt : Halt}
    (course : evaluator.Course constraint bound began start moment questions reports halt)
    (window : start ≤ bound) :
    questions = [] ↔ evaluator.OutOfTime (moment.now - began) := by
  cases course with
  | exhausted passed => omega
  | cleared _ early _ _ => exact iff_of_false (List.cons_ne_nil _ _) early
  | stopped _ stops =>
      cases stops with
      | overtime present late => exact iff_of_true rfl ⟨_, present, late⟩
      | refused early _ => exact iff_of_false (List.cons_ne_nil _ _) early
      | undecided early _ => exact iff_of_false (List.cons_ne_nil _ _) early
      | modelless early _ => exact iff_of_false (List.cons_ne_nil _ _) early
      | settled early _ _ => exact iff_of_false (List.cons_ne_nil _ _) early

end Transcripts

/-- A recorded evaluation follows a course, and its log is that of the course's questions. -/
theorem evaluate_recorded_course (evaluator : Evaluator σ) {bound start : Nat}
    (window : start ≤ bound) (constraint : Option Formula) (session : Session σ) :
    ∃ questions reports halt,
      evaluator.recording.Course constraint bound session.now start (session.moment.recording [])
        questions reports halt ∧
      (evaluator.recording.evaluate bound start constraint).run (session.recording []) =
        recorded (((evaluator.interview constraint questions session.moment).map
            Inquiry.toBlock).flatMap (Block.calls evaluator.task constraint))
          ((evaluator.evaluate bound start constraint).run session) ∧
      ((evaluator.evaluate bound start constraint).final session).now =
        (evaluator.recording.reached constraint questions (session.moment.recording [])).now := by
  obtain ⟨log, ran⟩ := evaluator.evaluate_recorded bound start constraint session []
  obtain ⟨questions, reports, halt, course, follows⟩ :=
    evaluator.recording.evaluate_course window constraint (session.recording [])
  have ended := follows.proceeds.moment
  rw [final_of_recorded ran] at ended
  have moved : ((evaluator.evaluate bound start constraint).final session).moment.recording log = _ :=
    ended.trans (reached_recording questions session.moment [])
  have calls : log = ((evaluator.interview constraint questions session.moment).map
      Inquiry.toBlock).flatMap (Block.calls evaluator.task constraint) :=
    congrArg (fun moment => moment.oracle.2) moved
  rw [calls] at ran
  exact ⟨questions, reports, halt, course, ran, congrArg Moment.now ended⟩

/-- Whatever the oracle answers, an evaluation without files calls it in blocks of a reset, an
assertion and a check. The log of a recorded run is that of the blocks, and recording changes nothing
else. No block at all stands there if the budget is used up before the first query. As only the oracle
takes time, such a budget is of 0 seconds, and `withSettings` never sets one. Otherwise the blocks
follow a lawful transcript, and none but the last is definite, fails, or is left unknown or without
its model. -/
theorem evaluate_follows_protocol (evaluator : Evaluator σ) (unwritten : evaluator.dump = none)
    (constraint : Option Formula) {bound start : Nat} (window : start ≤ bound)
    (session : Session σ) :
    ∃ blocks : List Block,
      (evaluator.recording.evaluate bound start constraint).run (session.recording []) =
        recorded (blocks.flatMap (Block.calls evaluator.task constraint))
          ((evaluator.evaluate bound start constraint).run session) ∧
      (blocks = [] ↔ evaluator.OutOfTime 0) ∧
      (blocks ≠ [] → ∃ transcript : Transcript, blocks = transcript.blocks start ∧
        transcript.Lawful evaluator bound start
          (((evaluator.evaluate bound start constraint).final session).now - session.now)) ∧
      ∀ block ∈ blocks.dropLast, block.phase = .possible ∧ ¬block.exchange.Halts := by
  obtain ⟨questions, reports, halt, course, ran, time⟩ :=
    evaluator.evaluate_recorded_course window constraint session
  have unfiled : evaluator.recording.dump = none := unwritten
  have transcribed (asked : questions ≠ []) : ∃ transcript : Transcript,
      (evaluator.interview constraint questions session.moment).map Inquiry.toBlock =
        transcript.blocks start ∧
      transcript.Lawful evaluator bound start
        (((evaluator.evaluate bound start constraint).final session).now - session.now) := by
    obtain ⟨transcript, blocks, lawful⟩ := course.exists_transcript unfiled window asked
    rw [interview_recording] at blocks
    rw [← time] at lawful
    exact ⟨transcript, blocks, lawful.start_le, lawful.le_bound, lawful.definite_iff, lawful.cut⟩
  have silent : (evaluator.interview constraint questions session.moment).map Inquiry.toBlock = [] ↔
      questions = [] := by
    rw [List.map_eq_nil_iff, interview_eq_nil_iff]
  refine ⟨_, ran, ?_, ?_, ?_⟩
  · have atOnce : session.now - session.now = 0 := Nat.sub_self _
    rw [silent, ← atOnce]
    exact course.questions_eq_nil_iff window
  · intro asked
    exact transcribed (mt silent.mpr asked)
  · by_cases asked : questions = []
    · rw [silent.mpr asked]
      intro block absent
      cases absent
    · obtain ⟨transcript, blocks, lawful⟩ := transcribed asked
      rw [blocks]
      exact lawful.unfinished

end Evaluator

/-- An oracle that clears a timestep, then grants a query, and refuses the next assertion. -/
def Bench.refusing : Bench :=
  { answering := .script [.unsat, .sat (some (.ofList [])), .assertFails "full"] }

namespace Evaluator

open EvalM

theorem evaluate_follows_protocol_refused :
    ∃ transcript : Transcript,
      (transcript.blocks 1).flatMap (Block.calls .walk none) =
        [.reset (.ok ()), .assert (Task.walk.question none 1 .possible) (.ok ()),
          .check (.ok .unsat) none,
          .reset (.ok ()), .assert (Task.walk.question none 2 .possible) (.ok ()),
          .check (.ok .sat) (some (.ofList [])),
          .reset (.ok ()), .assert (Task.walk.question none 2 .definite) (.error "full")] ∧
      transcript.Lawful (single Bench.oracle .walk) 4 1 0 := by
  obtain ⟨blocks, ran, nothing, asked, _⟩ := evaluate_follows_protocol (single Bench.oracle .walk)
    rfl none (by decide : 1 ≤ 4) { oracle := Bench.refusing }
  have unlimited : blocks ≠ [] := by
    intro empty
    obtain ⟨_, limited, _⟩ := nothing.mp empty
    cases limited
  obtain ⟨transcript, rfl, lawful⟩ := asked unlimited
  have logged := congrArg (fun session => session.oracle.2) (final_of_recorded ran)
  exact ⟨transcript, logged.symm.trans rfl, lawful⟩

end Evaluator

end Trivalent
