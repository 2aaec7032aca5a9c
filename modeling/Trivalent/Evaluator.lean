import Trivalent.Folder
import Trivalent.Formula.Smtlib
import Trivalent.Journal
import Trivalent.Task.Basic
import Trivalent.Text.Unseen
import Trivalent.Trace.Decode

/-!
Bounded evaluation of one model. At every timestep of the window the oracle is asked whether the
unrolled model can reach a violation with the status variable true. If it can, the same question with
the status variable false tells whether the violation is definite. Transitions before the window are
unrolled too, so a later start skips queries and nothing else.
-/

set_option autoImplicit false

namespace Trivalent

/-- What changes while models are checked: the state of the oracles, the time and the journal. Time
passes only while an oracle is at work: making formulas, reading traces, reporting and writing files
take none. -/
structure Session (σ : Type) where
  oracle : σ
  now : Nanoseconds := 0
  journal : List Entry := []

/-- A check in progress. It may stop with an error, and what it did up to there stays done. -/
abbrev EvalM (σ : Type) := EStateM CheckError (Session σ)

/-- A model to check. `budget` is in seconds. `seat` is the place of the model among all models, under
which the journal counts the formulas asked of its task. -/
structure Evaluator (σ : Type) where
  label : String := "concrete"
  program : Program
  property : Property
  task : Task
  oracle : Oracle σ
  reporter : Reporter := .logging
  budget : Option Nat := none
  dump : Option Folder := none
  seat : Nat := 0

/-- The state of one evaluation: the formulas unrolled so far, the stopwatch and the counts. -/
structure Run where
  formulas : List Formula
  watch : Stopwatch
  queries : Nat := 0
  extensions : Nat := 0

/-- A verdict on a timestep, with the trace that shows it. -/
structure Finding where
  verdict : Verdict
  trace : Option Trace := none

variable {σ : Type}

namespace EvalM

def record (entry : Entry) : EvalM σ Unit :=
  modify fun session => { session with journal := session.journal ++ [entry] }

def note (content : Note) : EvalM σ Unit := record (.note content)

def now : EvalM σ Nanoseconds := return (← get).now

def ofFile {α : Type} : Except FileError α → EvalM σ α
  | .ok value => pure value
  | .error error => throw (.file error)

theorem run_record (entry : Entry) (session : Session σ) :
    (record entry).run session = .ok () { session with journal := session.journal ++ [entry] } :=
  rfl

theorem run_note (content : Note) (session : Session σ) :
    (note content).run session =
      .ok () { session with journal := session.journal ++ [.note content] } :=
  rfl

theorem run_now (session : Session σ) : now.run session = .ok session.now session := rfl

end EvalM

/-- Add a transition formula. -/
def Run.extend (run : Run) (transition : Formula) : Run :=
  { run with formulas := run.formulas ++ [transition], extensions := run.extensions + 1 }

/-- The parts of a query: what is unrolled, the violation and the status variable. -/
def Run.query (run : Run) (violation : Formula) (phase : Phase) : List Formula :=
  [Formula.conj run.formulas, violation, Atom.status.formula phase.polarity]

namespace Evaluator

open EvalM

/-- Take the time budget and the folder for queries from settings. A timeout of 0 means no budget;
`disk` says what stands at a path. -/
def withSettings (evaluator : Evaluator σ) (settings : Settings) (disk : String → Site) :
    Evaluator σ :=
  { evaluator with
    budget := if settings.timeoutSecs = 0 then none else some settings.timeoutSecs.toNat
    dump := settings.dumpQueries.map fun path => ⟨path, disk path⟩ }

def report (evaluator : Evaluator σ) (content : Report) : EvalM σ Unit :=
  record (.report evaluator.reporter content)

/-- Let the oracle check the conjunction of the parts. -/
def askOracle (evaluator : Evaluator σ) (parts : List Formula) :
    EvalM σ (Except String SatResult) := do
  note (.conjunction parts.length)
  modifyGet fun session =>
    let reply := evaluator.oracle.checkAll parts session.oracle
    (reply.answer, { session with oracle := reply.state, now := session.now + reply.took })

/-- The model that the oracle offers. -/
def currentModel (evaluator : Evaluator σ) : EvalM σ (Option Model) :=
  return evaluator.oracle.model (← get).oracle

theorem run_report (evaluator : Evaluator σ) (content : Report) (session : Session σ) :
    (evaluator.report content).run session =
      .ok () { session with
        journal := session.journal ++ [.report evaluator.reporter content] } :=
  rfl

theorem run_askOracle (evaluator : Evaluator σ) (parts : List Formula) (session : Session σ) :
    (evaluator.askOracle parts).run session =
      .ok (evaluator.oracle.checkAll parts session.oracle).answer
        { oracle := (evaluator.oracle.checkAll parts session.oracle).state
          now := session.now + (evaluator.oracle.checkAll parts session.oracle).took
          journal := session.journal ++ [.note (.conjunction parts.length)] } :=
  rfl

theorem run_currentModel (evaluator : Evaluator σ) (session : Session σ) :
    evaluator.currentModel.run session =
      .ok (evaluator.oracle.model session.oracle) session :=
  rfl

/-! ### Files of queries -/

def writeFile (folder : Folder) (name content : String) : EvalM σ Unit := do
  record (.file (← ofFile (folder.locate name)) content)

/-- Write a query as a script and, if it is satisfiable, its model. -/
def dumpQuery (evaluator : Evaluator σ) (folder : Folder) (parts : List Formula) (phase : Phase)
    (timestep : Nat) (result : SatResult) : EvalM σ Unit := do
  ofFile folder.create
  let stem := evaluator.label ++ "_t" ++ timestep.repr ++ "_" ++ phase.letter
  writeFile folder (stem ++ ".smt2") (Formula.conj parts).script
  if result.isSat then
    let model ← evaluator.currentModel
    writeFile folder (stem ++ ".model.json") (Json.ofOption Model.toJson model).pretty

/-! ### Queries -/

/-- Ask one query, measure and report it. A failure of the oracle ends the evaluation. -/
def ask (evaluator : Evaluator σ) (run : Run) (violation : Formula) (phase : Phase)
    (timestep : Nat) : EvalM σ (SatResult × Run) := do
  let parts := run.query violation phase
  let watch := run.watch.startLap (← now)
  match ← evaluator.askOracle parts with
  | .error message => throw (.oracle timestep message)
  | .ok result =>
      let time ← now
      evaluator.report
        (.query ⟨evaluator.label, timestep, phase, watch.lap time, result⟩)
      match evaluator.dump with
      | some folder => evaluator.dumpQuery folder parts phase timestep result
      | none => pure ()
      return (result, { run with watch := watch.endLap time, queries := run.queries + 1 })

/-- The trace of the oracle's model up to a timestep. -/
def currentTrace (evaluator : Evaluator σ) (timestep : Nat) : EvalM σ Trace := do
  match ← evaluator.currentModel with
  | none =>
      note (.missingModel evaluator.label timestep)
      throw (.missingModel timestep)
  | some model =>
      match model.decode evaluator.program evaluator.property timestep with
      | .ok trace => return trace
      | .error source => throw (.decode timestep source)

/-! ### Timesteps -/

/-- The budget, if it is used up. -/
def spentBudget (evaluator : Evaluator σ) (run : Run) : EvalM σ (Option Nat) := do
  let time ← now
  return evaluator.budget.filter fun seconds => run.watch.exceeds time (.ofSeconds seconds)

/-- The possible violation is at hand: is it definite? -/
def checkDefinite (evaluator : Evaluator σ) (run : Run) (violation : Formula) (timestep : Nat) :
    EvalM σ (Option Finding × Run) := do
  let trace ← evaluator.currentTrace timestep
  evaluator.report (.trace evaluator.label timestep trace)
  let (result, run) ← evaluator.ask run violation .definite timestep
  match result with
  | .sat => return (some ⟨.satisfiable, some (← evaluator.currentTrace timestep)⟩, run)
  | .unsat => return (some ⟨.unknown, some trace⟩, run)
  | .unknown reason => return (some ⟨.inconclusive reason, some trace⟩, run)

/-- Check a timestep. Without a finding no violation is possible there. -/
def checkTimestep (evaluator : Evaluator σ) (run : Run) (timestep : Nat) :
    EvalM σ (Option Finding × Run) := do
  match ← evaluator.spentBudget run with
  | some seconds =>
      note (.budgetExhausted evaluator.label timestep)
      let reason := s!"{evaluator.label} used up its {seconds}s budget before timestep {timestep}"
      return (some ⟨.inconclusive reason, none⟩, run)
  | none =>
      note (.checking evaluator.label timestep)
      record (.request evaluator.seat .violation)
      let violation := evaluator.task.violation timestep
      let (result, run) ← evaluator.ask run violation .possible timestep
      match result with
      | .unsat => return (none, run)
      | .unknown reason => return (some ⟨.inconclusive reason, none⟩, run)
      | .sat => evaluator.checkDefinite run violation timestep

/-- Unroll the transition out of a timestep. -/
def extend (evaluator : Evaluator σ) (run : Run) (timestep : Nat) : EvalM σ Run := do
  record (.request evaluator.seat .transition)
  return run.extend (evaluator.task.transition timestep)

/-- Unroll the transitions out of the first timesteps. -/
def unroll (evaluator : Evaluator σ) (run : Run) : Nat → EvalM σ Run
  | 0 => pure run
  | timestep + 1 => do evaluator.extend (← evaluator.unroll run timestep) timestep

/-- The outcome of a finding, which is reported. -/
def finish (evaluator : Evaluator σ) (run : Run) (timestep : Nat) (finding : Finding) :
    EvalM σ Outcome := do
  let outcome : Outcome :=
    { verdict := finding.verdict
      timestep
      trace := finding.trace
      elapsed := run.watch.total (← now)
      queries := run.queries
      extensions := run.extensions }
  evaluator.report (.outcome evaluator.label outcome)
  return outcome

/-- Check the next `count` timesteps, up to `bound`. -/
def scan (evaluator : Evaluator σ) (bound : Nat) : Nat → Nat → Run → EvalM σ Outcome
  | 0, _, run => evaluator.finish run bound ⟨.noErrorFound, none⟩
  | count + 1, timestep, run => do
      let (finding, run) ← evaluator.checkTimestep run timestep
      match finding with
      | some finding => evaluator.finish run timestep finding
      | none => evaluator.scan bound count (timestep + 1) (← evaluator.extend run timestep)

/-- Start a run: the initial states and the constraint, if there is one. -/
def begin (evaluator : Evaluator σ) (constraint : Option Formula) : EvalM σ Run := do
  let watch := Stopwatch.start (← now)
  record (.request evaluator.seat .initial)
  return { formulas := evaluator.task.initial :: constraint.toList, watch }

/-- Check the timesteps from `start` to `bound`, under a constraint on the whole run. -/
def evaluate (evaluator : Evaluator σ) (bound start : Nat) (constraint : Option Formula) :
    EvalM σ Outcome := do
  if bound < start then throw (.configuration (.startBeyondBound start bound))
  else
    let run ← evaluator.begin constraint
    let run ← evaluator.unroll run start
    evaluator.scan bound (bound + 1 - start) start run

/-! ### Description -/

/-- A character of a quoted label. One that cannot be told by sight is shown by number. -/
def describeChar (char : Char) : String :=
  if char = '"' then "\\\""
  else if char = '\\' then "\\\\"
  else if char = '\n' then "\\n"
  else if char = '\t' then "\\t"
  else if char = '\r' then "\\r"
  else if char = '\x00' then "\\0"
  else if Text.isUnseen char then
    "\\u\x7b" ++ String.ofList (Nat.toDigits 16 char.toNat) ++ "\x7d"
  else char.toString

def describeProperty (property : Property) : String :=
  "PropertySpec \x7b fairness_on: " ++ boolText property.fairness ++ ", multi_model: " ++
    boolText property.multiModel ++ ", double_test: " ++ boolText property.doubleTest ++ " \x7d"

/-- One line about a model. -/
def describe (evaluator : Evaluator σ) : String :=
  "Evaluator \x7b label: \"" ++ String.join (evaluator.label.toList.map describeChar) ++
    "\", processes: " ++ evaluator.program.processes.length.repr ++ ", spec: " ++
    describeProperty evaluator.property ++ ", .. \x7d"

end Evaluator

end Trivalent
