import Trivalent.Evaluator
import Trivalent.Proofs.Oracle.Calls

/-!
Two oracles that cannot be told apart by their queries. If states stay related from query to query,
and the answers, the times and the models after a query are the same, then evaluations with the two
oracles come to the same result, take the same time and write the same entries, whenever they begin and
whatever was written before (`evaluate_parallel`). Begun alike they also end alike
(`evaluate_matches`). A recording oracle is such a companion of the oracle that it records
(`evaluate_recorded`).
-/

set_option autoImplicit false

namespace Trivalent

variable {σ τ : Type}

/-- Related states are answered alike, offer the same model afterwards and stay related. -/
structure Oracle.Agrees (left : Oracle σ) (right : Oracle τ) (related : σ → τ → Prop) : Prop where
  answer : ∀ parts {state state'}, related state state' →
    (left.checkAll parts state).answer = (right.checkAll parts state').answer
  took : ∀ parts {state state'}, related state state' →
    (left.checkAll parts state).took = (right.checkAll parts state').took
  model : ∀ parts {state state'}, related state state' →
    left.model (left.checkAll parts state).state = right.model (right.checkAll parts state').state
  related : ∀ parts {state state'}, related state state' →
    related (left.checkAll parts state).state (right.checkAll parts state').state

/-- Sessions that differ in the state of the oracle only. -/
structure Session.Alike (related : σ → τ → Prop) (left : Session σ) (right : Session τ) : Prop where
  oracle : related left.oracle right.oracle
  now : left.now = right.now
  journal : left.journal = right.journal

/-- As much time has passed since the one origin as since the other. -/
def Session.Level (origin : Session σ) (origin' : Session τ) (time time' : Nat) : Prop :=
  time + origin'.now = time' + origin.now

/-- Sessions that have come equally far from their origins: the same time has passed and the same
entries were written since. -/
structure Session.Beside (origin : Session σ) (origin' : Session τ) (related : σ → τ → Prop)
    (left : Session σ) (right : Session τ) : Prop where
  oracle : related left.oracle right.oracle
  now : origin.Level origin' left.now right.now
  journal : ∃ written, left.journal = origin.journal ++ written ∧
    right.journal = origin'.journal ++ written

/-- Runs that were started at the same time after the origins. -/
structure Run.Beside (origin : Session σ) (origin' : Session τ) (run run' : Run) : Prop where
  formulas : run.formulas = run'.formulas
  started : origin.Level origin' run.watch.started run'.watch.started
  queries : run.queries = run'.queries
  extensions : run.extensions = run'.extensions

section Origins

variable {origin : Session σ} {origin' : Session τ}

theorem Session.Level.sub_eq {time time' earlier earlier' : Nat}
    (level : origin.Level origin' time time') (before : origin.Level origin' earlier earlier') :
    time - earlier = time' - earlier' := by
  unfold Session.Level at level before
  omega

theorem Session.Level.add {time time' passed passed' : Nat}
    (level : origin.Level origin' time time') (same : passed = passed') :
    origin.Level origin' (time + passed) (time' + passed') := by
  unfold Session.Level at level ⊢
  omega

theorem Session.beside_self {related : σ → τ → Prop} (oracle : related origin.oracle origin'.oracle) :
    origin.Beside origin' related origin origin' :=
  ⟨oracle, Nat.add_comm _ _, [], (List.append_nil _).symm, (List.append_nil _).symm⟩

theorem Session.Beside.mono {related settled : σ → τ → Prop} {left : Session σ} {right : Session τ}
    (beside : origin.Beside origin' settled left right)
    (weaken : ∀ {state state'}, settled state state' → related state state') :
    origin.Beside origin' related left right :=
  ⟨weaken beside.oracle, beside.now, beside.journal⟩

theorem Run.Beside.extend {run run' : Run} (alongside : run.Beside origin origin' run')
    (transition : Formula) :
    (run.extend transition).Beside origin origin' (run'.extend transition) where
  formulas := congrArg (· ++ [transition]) alongside.formulas
  started := alongside.started
  queries := alongside.queries
  extensions := congrArg Nat.succ alongside.extensions

theorem Run.Beside.total_eq {run run' : Run} {time time' : Nanoseconds}
    (alongside : run.Beside origin origin' run') (level : origin.Level origin' time time') :
    run.watch.total time = run'.watch.total time' :=
  level.sub_eq alongside.started

end Origins

namespace EvalM

/-- Two results side by side: the same error, or values that belong together as `same` says. `settled`
relates the states of the oracles after a value, `related` those after an error. -/
inductive Parallel {α β : Type} (origin : Session σ) (origin' : Session τ)
    (related settled : σ → τ → Prop) (same : α → β → Prop) :
    EStateM.Result CheckError (Session σ) α → EStateM.Result CheckError (Session τ) β → Prop where
  | ok {value : α} {value' : β} {left : Session σ} {right : Session τ} :
      same value value' → origin.Beside origin' settled left right →
      Parallel origin origin' related settled same (.ok value left) (.ok value' right)
  | error {problem : CheckError} {left : Session σ} {right : Session τ} :
      origin.Beside origin' related left right →
      Parallel origin origin' related settled same (.error problem left) (.error problem right)

/-- Two results are the same value or the same error, up to the state of the oracle. `settled` relates
the states after a value, `related` those after an error. -/
inductive Matches {α : Type} (related settled : σ → τ → Prop) :
    EStateM.Result CheckError (Session σ) α → EStateM.Result CheckError (Session τ) α → Prop where
  | ok {value : α} {left : Session σ} {right : Session τ} :
      left.Alike settled right → Matches related settled (.ok value left) (.ok value right)
  | error {problem : CheckError} {left : Session σ} {right : Session τ} :
      left.Alike related right → Matches related settled (.error problem left) (.error problem right)

variable {α β γ δ : Type} {origin left : Session σ} {origin' right : Session τ}
  {related settled after : σ → τ → Prop}

theorem Parallel.bind {action : EvalM σ α} {action' : EvalM τ β} {next : α → EvalM σ γ}
    {next' : β → EvalM τ δ} {same : α → β → Prop} {same' : γ → δ → Prop}
    (first : Parallel origin origin' related settled same (action.run left) (action'.run right))
    (second : ∀ value value' middle middle', same value value' →
      origin.Beside origin' settled middle middle' →
      Parallel origin origin' related after same' ((next value).run middle)
        ((next' value').run middle')) :
    Parallel origin origin' related after same' ((action >>= next).run left)
      ((action' >>= next').run right) := by
  rw [EStateM.run_bind, EStateM.run_bind]
  generalize action.run left = result at first
  generalize action'.run right = result' at first
  cases first with
  | ok holds beside => exact second _ _ _ _ holds beside
  | error beside => exact .error beside

theorem Parallel.bind_eq {action : EvalM σ α} {action' : EvalM τ α} {next : α → EvalM σ γ}
    {next' : α → EvalM τ δ} {same : γ → δ → Prop}
    (first : Parallel origin origin' related settled Eq (action.run left) (action'.run right))
    (second : ∀ value middle middle', origin.Beside origin' settled middle middle' →
      Parallel origin origin' related after same ((next value).run middle)
        ((next' value).run middle')) :
    Parallel origin origin' related after same ((action >>= next).run left)
      ((action' >>= next').run right) := by
  refine first.bind ?_
  rintro value _ middle middle' rfl beside
  exact second value middle middle' beside

theorem parallel_pure {value : α} {value' : β} {same : α → β → Prop} (holds : same value value')
    (beside : origin.Beside origin' settled left right) :
    Parallel origin origin' related settled same ((pure value : EvalM σ α).run left)
      ((pure value' : EvalM τ β).run right) :=
  .ok holds beside

theorem parallel_throw (problem : CheckError) (same : α → β → Prop)
    (beside : origin.Beside origin' related left right) :
    Parallel origin origin' related settled same ((throw problem : EvalM σ α).run left)
      ((throw problem : EvalM τ β).run right) :=
  .error beside

theorem parallel_record (entry : Entry) (beside : origin.Beside origin' settled left right) :
    Parallel origin origin' related settled Eq ((record entry : EvalM σ Unit).run left)
      ((record entry : EvalM τ Unit).run right) := by
  obtain ⟨written, earlier, earlier'⟩ := beside.journal
  refine .ok rfl ⟨beside.oracle, beside.now, written ++ [entry], ?_, ?_⟩
  · rw [← List.append_assoc, ← earlier]
  · rw [← List.append_assoc, ← earlier']

theorem parallel_now (beside : origin.Beside origin' settled left right) :
    Parallel origin origin' related settled (origin.Level origin')
      ((now : EvalM σ Nanoseconds).run left) ((now : EvalM τ Nanoseconds).run right) :=
  .ok beside.now beside

theorem parallel_ofFile (result : Except FileError α)
    (beside : origin.Beside origin' settled left right)
    (weaken : ∀ {state state'}, settled state state' → related state state') :
    Parallel origin origin' related settled Eq ((ofFile result : EvalM σ α).run left)
      ((ofFile result : EvalM τ α).run right) := by
  cases result with
  | ok value => exact .ok rfl beside
  | error problem => exact .error (beside.mono weaken)

theorem Parallel.toMatches {result : EStateM.Result CheckError (Session σ) α}
    {result' : EStateM.Result CheckError (Session τ) α}
    (parallel : Parallel left right related related Eq result result')
    (alike : left.Alike related right) : Matches related related result result' := by
  have ending {last : Session σ} {last' : Session τ} (beside : left.Beside right related last last') :
      last.Alike related last' := by
    obtain ⟨written, journal, journal'⟩ := beside.journal
    refine ⟨beside.oracle, ?_, ?_⟩
    · have level := beside.now
      rw [Session.Level, alike.now] at level
      exact Nat.add_right_cancel level
    · rw [journal, journal', alike.journal]
  cases parallel with
  | ok same beside =>
      cases same
      exact .ok (ending beside)
  | error beside => exact .error (ending beside)

end EvalM

namespace Evaluator

open EvalM

/-- The same model with another oracle. -/
def withOracle (evaluator : Evaluator σ) (oracle : Oracle τ) : Evaluator τ :=
  { evaluator with oracle }

/-- Related states that offer the same model. -/
def Offering (evaluator : Evaluator σ) (oracle : Oracle τ) (related : σ → τ → Prop) (state : σ)
    (state' : τ) : Prop :=
  related state state' ∧ evaluator.oracle.model state = oracle.model state'

section Agreement

variable {evaluator : Evaluator σ} {oracle : Oracle τ} {related : σ → τ → Prop}
  {origin left : Session σ} {origin' right : Session τ} {run run' : Run}

theorem currentModel_parallel
    (beside : origin.Beside origin' (evaluator.Offering oracle related) left right) :
    Parallel origin origin' related (evaluator.Offering oracle related) Eq
      (evaluator.currentModel.run left) ((evaluator.withOracle oracle).currentModel.run right) :=
  .ok beside.oracle.2 beside

theorem currentTrace_parallel (timestep : Nat)
    (beside : origin.Beside origin' (evaluator.Offering oracle related) left right) :
    Parallel origin origin' related related Eq ((evaluator.currentTrace timestep).run left)
      (((evaluator.withOracle oracle).currentTrace timestep).run right) := by
  refine (currentModel_parallel beside).bind_eq ?_
  intro offered middle middle' beside
  have weaker : origin.Beside origin' related middle middle' := beside.mono And.left
  cases offered with
  | none => exact (parallel_record _ weaker).bind_eq fun _ _ _ beside => parallel_throw _ _ beside
  | some model =>
      have program : (evaluator.withOracle oracle).program = evaluator.program := rfl
      have property : (evaluator.withOracle oracle).property = evaluator.property := rfl
      simp only [program, property]
      cases model.decode evaluator.program evaluator.property timestep with
      | ok trace => exact parallel_pure rfl weaker
      | error source => exact parallel_throw _ _ weaker

theorem writeFile_parallel (folder : Folder) (name content : String)
    (beside : origin.Beside origin' (evaluator.Offering oracle related) left right) :
    Parallel origin origin' related (evaluator.Offering oracle related) Eq
      ((writeFile folder name content : EvalM σ Unit).run left)
      ((writeFile folder name content : EvalM τ Unit).run right) :=
  (parallel_ofFile _ beside And.left).bind_eq fun _ _ _ beside => parallel_record _ beside

theorem dumpQuery_parallel (folder : Folder) (parts : List Formula) (phase : Phase) (timestep : Nat)
    (result : SatResult)
    (beside : origin.Beside origin' (evaluator.Offering oracle related) left right) :
    Parallel origin origin' related (evaluator.Offering oracle related) Eq
      ((evaluator.dumpQuery folder parts phase timestep result).run left)
      (((evaluator.withOracle oracle).dumpQuery folder parts phase timestep result).run right) := by
  refine (parallel_ofFile _ beside And.left).bind_eq fun _ _ _ beside => ?_
  refine (writeFile_parallel _ _ _ beside).bind_eq fun _ _ _ beside => ?_
  split
  · refine (currentModel_parallel beside).bind_eq fun _ _ _ beside => ?_
    exact writeFile_parallel _ _ _ beside
  · exact parallel_pure rfl beside

theorem extend_parallel (alongside : run.Beside origin origin' run') (timestep : Nat)
    (beside : origin.Beside origin' related left right) :
    Parallel origin origin' related related (Run.Beside origin origin')
      ((evaluator.extend run timestep).run left)
      (((evaluator.withOracle oracle).extend run' timestep).run right) :=
  (parallel_record _ beside).bind_eq fun _ _ _ beside =>
    parallel_pure (alongside.extend _) beside

theorem finish_parallel (alongside : run.Beside origin origin' run') (timestep : Nat)
    (finding : Finding) (beside : origin.Beside origin' related left right) :
    Parallel origin origin' related related Eq ((evaluator.finish run timestep finding).run left)
      (((evaluator.withOracle oracle).finish run' timestep finding).run right) := by
  refine (parallel_now beside).bind fun time time' _ _ level beside => ?_
  rw [alongside.total_eq level, alongside.queries, alongside.extensions]
  exact (parallel_record _ beside).bind_eq fun _ _ _ beside => parallel_pure rfl beside

theorem unroll_parallel (alongside : run.Beside origin origin' run') (count : Nat)
    (beside : origin.Beside origin' related left right) :
    Parallel origin origin' related related (Run.Beside origin origin')
      ((evaluator.unroll run count).run left)
      (((evaluator.withOracle oracle).unroll run' count).run right) := by
  induction count with
  | zero => exact parallel_pure alongside beside
  | succ count ih =>
      exact ih.bind fun _ _ _ _ alongside beside => extend_parallel alongside count beside

section

variable (agrees : evaluator.oracle.Agrees oracle related)

include agrees

theorem askOracle_parallel (parts : List Formula)
    (beside : origin.Beside origin' related left right) :
    Parallel origin origin' related (evaluator.Offering oracle related) Eq
      ((evaluator.askOracle parts).run left)
      (((evaluator.withOracle oracle).askOracle parts).run right) := by
  refine (parallel_record _ beside).bind_eq fun _ middle middle' beside => ?_
  have later := beside.now.add (agrees.took parts beside.oracle)
  refine .ok (agrees.answer parts beside.oracle) ⟨?_, later, beside.journal⟩
  exact ⟨agrees.related parts beside.oracle, agrees.model parts beside.oracle⟩

/-- The model is at hand only right after a query, so this is where the states are known to offer the
same one. -/
theorem ask_parallel (alongside : run.Beside origin origin' run') (violation : Formula)
    (phase : Phase) (timestep : Nat) (beside : origin.Beside origin' related left right) :
    Parallel origin origin' related (evaluator.Offering oracle related)
      (fun answer answer' => answer.1 = answer'.1 ∧ answer.2.Beside origin origin' answer'.2)
      ((evaluator.ask run violation phase timestep).run left)
      (((evaluator.withOracle oracle).ask run' violation phase timestep).run right) := by
  have parts : run'.query violation phase = run.query violation phase := by
    rw [Run.query, Run.query, alongside.formulas]
  refine (parallel_now beside).bind fun started started' _ _ begun beside => ?_
  simp only [parts]
  refine (askOracle_parallel agrees _ beside).bind_eq fun answer _ _ beside => ?_
  cases answer with
  | error message => exact parallel_throw _ _ (beside.mono And.left)
  | ok result =>
      refine (parallel_now beside).bind fun time time' _ _ level beside => ?_
      have lap : (run.watch.startLap started).lap time = (run'.watch.startLap started').lap time' :=
        level.sub_eq begun
      have next : Run.Beside origin origin'
          { run with
            watch := (run.watch.startLap started).endLap time
            queries := run.queries + 1 }
          { run' with
            watch := (run'.watch.startLap started').endLap time'
            queries := run'.queries + 1 } :=
        ⟨alongside.formulas, alongside.started, congrArg Nat.succ alongside.queries,
          alongside.extensions⟩
      simp only [lap]
      refine (parallel_record _ beside).bind_eq fun _ _ _ beside => ?_
      have place : (evaluator.withOracle oracle).dump = evaluator.dump := rfl
      rw [place]
      cases evaluator.dump with
      | none => exact parallel_pure ⟨rfl, next⟩ beside
      | some folder =>
          refine (dumpQuery_parallel folder _ phase timestep result beside).bind_eq
            fun _ _ _ beside => ?_
          exact parallel_pure ⟨rfl, next⟩ beside

theorem checkDefinite_parallel (alongside : run.Beside origin origin' run') (violation : Formula)
    (timestep : Nat)
    (beside : origin.Beside origin' (evaluator.Offering oracle related) left right) :
    Parallel origin origin' related related
      (fun checked checked' => checked.1 = checked'.1 ∧ checked.2.Beside origin origin' checked'.2)
      ((evaluator.checkDefinite run violation timestep).run left)
      (((evaluator.withOracle oracle).checkDefinite run' violation timestep).run right) := by
  refine (currentTrace_parallel timestep beside).bind_eq fun trace _ _ beside => ?_
  refine (parallel_record _ beside).bind_eq fun _ _ _ beside => ?_
  refine (ask_parallel agrees alongside violation .definite timestep beside).bind ?_
  rintro ⟨result, next⟩ ⟨_, next'⟩ middle middle' ⟨rfl, alongside⟩ beside
  have weaker : origin.Beside origin' related middle middle' := beside.mono And.left
  cases result with
  | sat =>
      refine (currentTrace_parallel timestep beside).bind_eq fun second _ _ beside => ?_
      exact parallel_pure ⟨rfl, alongside⟩ beside
  | unsat => exact parallel_pure ⟨rfl, alongside⟩ weaker
  | unknown reason => exact parallel_pure ⟨rfl, alongside⟩ weaker

theorem checkTimestep_parallel (alongside : run.Beside origin origin' run') (timestep : Nat)
    (beside : origin.Beside origin' related left right) :
    Parallel origin origin' related related
      (fun checked checked' => checked.1 = checked'.1 ∧ checked.2.Beside origin origin' checked'.2)
      ((evaluator.checkTimestep run timestep).run left)
      (((evaluator.withOracle oracle).checkTimestep run' timestep).run right) := by
  have budgeted : Parallel origin origin' related related Eq
      ((evaluator.spentBudget run).run left)
      (((evaluator.withOracle oracle).spentBudget run').run right) := by
    refine (parallel_now beside).bind fun time time' _ _ level beside => ?_
    refine parallel_pure ?_ beside
    simp only [Stopwatch.exceeds, alongside.total_eq level]
    rfl
  refine budgeted.bind_eq fun spent _ _ beside => ?_
  cases spent with
  | some seconds =>
      refine (parallel_record _ beside).bind_eq fun _ _ _ beside => ?_
      exact parallel_pure ⟨rfl, alongside⟩ beside
  | none =>
      refine (parallel_record _ beside).bind_eq fun _ _ _ beside => ?_
      refine (parallel_record _ beside).bind_eq fun _ _ _ beside => ?_
      refine (ask_parallel agrees alongside _ .possible timestep beside).bind ?_
      rintro ⟨result, next⟩ ⟨_, next'⟩ middle middle' ⟨rfl, alongside⟩ beside
      have weaker : origin.Beside origin' related middle middle' := beside.mono And.left
      cases result with
      | sat => exact checkDefinite_parallel agrees alongside _ timestep beside
      | unsat => exact parallel_pure ⟨rfl, alongside⟩ weaker
      | unknown reason => exact parallel_pure ⟨rfl, alongside⟩ weaker

theorem scan_parallel (bound count timestep : Nat) (alongside : run.Beside origin origin' run')
    (beside : origin.Beside origin' related left right) :
    Parallel origin origin' related related Eq ((evaluator.scan bound count timestep run).run left)
      (((evaluator.withOracle oracle).scan bound count timestep run').run right) := by
  induction count generalizing timestep run run' left right with
  | zero => exact finish_parallel alongside bound _ beside
  | succ count ih =>
      refine (checkTimestep_parallel agrees alongside timestep beside).bind ?_
      rintro ⟨finding, next⟩ ⟨_, next'⟩ middle middle' ⟨rfl, alongside⟩ beside
      cases finding with
      | some found => exact finish_parallel alongside timestep found beside
      | none =>
          refine (extend_parallel alongside timestep beside).bind ?_
          intro longer longer' _ _ alongside beside
          exact ih (timestep + 1) alongside beside

theorem evaluate_parallel (bound start : Nat) (constraint : Option Formula)
    (beside : origin.Beside origin' related left right) :
    Parallel origin origin' related related Eq
      ((evaluator.evaluate bound start constraint).run left)
      (((evaluator.withOracle oracle).evaluate bound start constraint).run right) := by
  have begun : Parallel origin origin' related related (Run.Beside origin origin')
      ((evaluator.begin constraint).run left)
      (((evaluator.withOracle oracle).begin constraint).run right) := by
    refine (parallel_now beside).bind fun time time' _ _ level beside => ?_
    refine (parallel_record _ beside).bind_eq fun _ _ _ beside => ?_
    exact parallel_pure ⟨rfl, level, rfl, rfl⟩ beside
  unfold evaluate
  split
  · exact parallel_throw _ _ beside
  · refine begun.bind fun _ _ _ _ alongside beside => ?_
    refine (unroll_parallel alongside start beside).bind fun _ _ _ _ alongside beside => ?_
    exact scan_parallel agrees bound _ start alongside beside

theorem evaluate_matches (bound start : Nat) (constraint : Option Formula)
    (alike : left.Alike related right) :
    Matches related related ((evaluator.evaluate bound start constraint).run left)
      (((evaluator.withOracle oracle).evaluate bound start constraint).run right) :=
  (evaluate_parallel agrees bound start constraint
    (Session.beside_self alike.oracle)).toMatches alike

end

end Agreement

end Evaluator

/-! ### Recording -/

/-- The session with a list of the oracle's calls. -/
def Session.recording (session : Session σ) (log : List Call) : Session (σ × List Call) :=
  { session with oracle := (session.oracle, log) }

/-- The result with a list of the oracle's calls. -/
def EvalM.recorded {α : Type} (log : List Call) :
    EStateM.Result CheckError (Session σ) α →
      EStateM.Result CheckError (Session (σ × List Call)) α
  | .ok value after => .ok value (after.recording log)
  | .error problem after => .error problem (after.recording log)

theorem Oracle.agrees_recording (oracle : Oracle σ) :
    oracle.Agrees oracle.recording fun state whole => whole.1 = state where
  answer := by
    rintro parts _ ⟨state, log⟩ rfl
    rw [checkAll_recording]
  took := by
    rintro parts _ ⟨state, log⟩ rfl
    rw [checkAll_recording]
  model := by
    rintro parts _ ⟨state, log⟩ rfl
    rw [checkAll_recording]
    rfl
  related := by
    rintro parts _ ⟨state, log⟩ rfl
    rw [checkAll_recording]

theorem EvalM.Matches.eq_recorded {α : Type} {left : EStateM.Result CheckError (Session σ) α}
    {right : EStateM.Result CheckError (Session (σ × List Call)) α}
    (matching : Matches (fun state whole => whole.1 = state) (fun state whole => whole.1 = state)
      left right) :
    ∃ log, right = recorded log left := by
  cases matching with
  | @ok value left right alike =>
      obtain ⟨⟨state, log⟩, now, journal⟩ := right
      obtain ⟨rfl, rfl, rfl⟩ := alike
      exact ⟨log, rfl⟩
  | @error problem left right alike =>
      obtain ⟨⟨state, log⟩, now, journal⟩ := right
      obtain ⟨rfl, rfl, rfl⟩ := alike
      exact ⟨log, rfl⟩

namespace Evaluator

open EvalM

def recording (evaluator : Evaluator σ) : Evaluator (σ × List Call) :=
  evaluator.withOracle evaluator.oracle.recording

theorem evaluate_recorded (evaluator : Evaluator σ) (bound start : Nat)
    (constraint : Option Formula) (session : Session σ) (log : List Call) :
    ∃ calls, (evaluator.recording.evaluate bound start constraint).run (session.recording log) =
      recorded calls ((evaluator.evaluate bound start constraint).run session) := by
  have alike : session.Alike (fun state whole => whole.1 = state) (session.recording log) :=
    ⟨rfl, rfl, rfl⟩
  exact (evaluate_matches evaluator.oracle.agrees_recording bound start constraint
    alike).eq_recorded

end Evaluator

end Trivalent
