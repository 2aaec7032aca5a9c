import Trivalent.Folder
import Trivalent.Oracle.Basic
import Trivalent.Outcome

/-!
The journal of a check: everything it did that can be seen from outside, in order. It holds the notes
of the check itself, the reports to reporters, the formulas asked of the task and the files written.
The log, the reports received and the files that result are views of it.
-/

set_option autoImplicit false

namespace Trivalent

/-- The two queries of a timestep: is a violation possible, and is it definite? -/
inductive Phase where
  | possible
  | definite
  deriving DecidableEq, Inhabited

namespace Phase

/-- The sign of the status variable in a query. -/
def polarity : Phase → Bool
  | .possible => true
  | .definite => false

def letter : Phase → String
  | .possible => "a"
  | .definite => "b"

def name : Phase → String
  | .possible => "possible"
  | .definite => "definite"

end Phase

/-- A query that was answered. -/
structure QueryRecord where
  model : String
  timestep : Nat
  phase : Phase
  elapsed : Nanoseconds
  result : SatResult
  deriving DecidableEq, Inhabited

def QueryRecord.toJson (record : QueryRecord) : Json :=
  .obj [("model", .str record.model), ("timestep", .num record.timestep),
    ("phase", .str record.phase.name), ("elapsed", Nanoseconds.toJson record.elapsed),
    ("result", record.result.toJson)]

/-- What a reporter is told. -/
inductive Report where
  | query (record : QueryRecord)
  | trace (model : String) (timestep : Nat) (trace : Trace)
  | outcome (model : String) (outcome : Outcome)
  deriving DecidableEq, Inhabited

/-- Where reports go: into the log, into a record of their own, or nowhere. -/
inductive Reporter where
  | logging
  | recording
  | silent
  deriving DecidableEq, Inhabited

/-- Notes of a check on its own progress. -/
inductive Note where
  | conjunction (parts : Nat)
  | checking (model : String) (timestep : Nat)
  | budgetExhausted (model : String) (timestep : Nat)
  | missingModel (model : String) (timestep : Nat)
  | abstractRound (round start excluded : Nat)
  | replay (round timestep : Nat)
  | confirmed (round timestep : Nat)
  | refuted (round : Nat) (verdict : Verdict)
  | roundsExhausted (limit : Nat)
  | retest (timestep : Nat)
  | retestDiffers (first second : Verdict) (timestep : Nat)
  deriving DecidableEq, Inhabited

/-- The formulas a task is asked for. -/
inductive TaskPart where
  | initial
  | transition
  | violation
  deriving DecidableEq, Inhabited

inductive Entry where
  | note (content : Note)
  | report (reporter : Reporter) (content : Report)
  /-- The task of the model in this seat was asked. -/
  | request (seat : Nat) (part : TaskPart)
  | file (place : FilePlace) (content : String)
  deriving DecidableEq, Inhabited

inductive LogLevel where
  | trace
  | debug
  | info
  | warn
  deriving DecidableEq, Inhabited

def LogLevel.name : LogLevel → String
  | .trace => "TRACE"
  | .debug => "DEBUG"
  | .info => "INFO"
  | .warn => "WARN"

structure LogLine where
  level : LogLevel
  message : String
  fields : List (String × Json)
  deriving Inhabited

namespace Note

/-- The fields of a note on a timestep of a model. -/
def modelFields (model : String) (timestep : Nat) : List (String × Json) :=
  [("model", .str model), ("timestep", .num timestep)]

def logLine : Note → LogLine
  | .conjunction parts => ⟨.trace, "oracle: checking conjunction", [("parts", .num parts)]⟩
  | .checking model timestep => ⟨.info, "BMC: checking timestep", modelFields model timestep⟩
  | .budgetExhausted model timestep =>
      ⟨.warn, "BMC: time budget exhausted", modelFields model timestep⟩
  | .missingModel model timestep =>
      ⟨.warn, "BMC: oracle returned SAT without a model", modelFields model timestep⟩
  | .abstractRound round start excluded =>
      ⟨.info, "CEGAR: checking abstract model",
        [("round", .num round), ("start_from", .num start), ("excluded_paths", .num excluded)]⟩
  | .replay round timestep =>
      ⟨.debug, "CEGAR: replaying abstract path", [("round", .num round), ("timestep", .num timestep)]⟩
  | .confirmed round timestep =>
      ⟨.info, "CEGAR: counterexample confirmed",
        [("round", .num round), ("timestep", .num timestep)]⟩
  | .refuted round verdict =>
      ⟨.info, "CEGAR: abstract path refuted, excluding it",
        [("round", .num round), ("verdict", .str verdict.kind)]⟩
  | .roundsExhausted limit =>
      ⟨.warn, "CEGAR: refinement budget exhausted", [("max_refinements", .num limit)]⟩
  | .retest timestep =>
      ⟨.info, "double test: re-solving result path", [("timestep", .num timestep)]⟩
  | .retestDiffers first second timestep =>
      ⟨.warn, "double test disagrees with the primary result",
        [("original", .str first.kind), ("retest", .str second.kind), ("timestep", .num timestep)]⟩

end Note

/-- A report as a line of the log. Milliseconds are kept to a word. -/
def Report.logLine : Report → LogLine
  | .query record =>
      let mark := if record.result.isSat then "T" else "F"
      ⟨.debug, s!"k({record.phase.letter})={record.timestep} -> {mark}",
        [("model", .str record.model), ("timestep", .num record.timestep),
          ("phase", .str record.phase.letter),
          ("elapsed_ms", .num (Nanoseconds.millis record.elapsed % wordLimit)),
          ("result", .str record.result.text)]⟩
  | .trace model timestep found =>
      ⟨.info, "counterexample path:\n" ++ found.text,
        [("model", .str model), ("timestep", .num timestep)]⟩
  | .outcome model final =>
      ⟨if final.verdict.isInconclusive then .warn else .info, final.text,
        [("model", .str model), ("verdict", .str final.verdict.kind)]⟩

namespace Entry

def logLine? : Entry → Option LogLine
  | .note content => some content.logLine
  | .report .logging content => some content.logLine
  | _ => none

def recorded? : Entry → Option Report
  | .report .recording content => some content
  | _ => none

/-- The name and content of a file in the folder itself. -/
def file? : Entry → Option (String × String)
  | .file ⟨0, name⟩ content => some (name, content)
  | _ => none

def isRequest (seat : Nat) (part : TaskPart) (entry : Entry) : Bool :=
  entry == .request seat part

end Entry

namespace Journal

/-- Every line of the log. -/
def log (entries : List Entry) : List LogLine := entries.filterMap Entry.logLine?

/-- The reports that were recorded. -/
def reports (entries : List Entry) : List Report := entries.filterMap Entry.recorded?

/-- The files written into the folder, in order. A later one of the same name replaces the earlier. -/
def files (entries : List Entry) : List (String × String) := entries.filterMap Entry.file?

/-- How often a task was asked for a part. -/
def requests (seat : Nat) (part : TaskPart) (entries : List Entry) : Nat :=
  entries.countP (Entry.isRequest seat part)

end Journal

end Trivalent
