import Trivalent.Stopwatch
import Trivalent.Trace.Document

/-!
Outcomes of an evaluation: the verdict, the timestep it was reached at and what it took to get there.
-/

set_option autoImplicit false

namespace Trivalent

/-- A violation that is definite, one that may or may not be real, none up to the bound, or no answer
at all. -/
inductive Verdict where
  | satisfiable
  | unknown
  | noErrorFound
  | inconclusive (reason : String)
  deriving DecidableEq, Inhabited

namespace Verdict

def kind : Verdict → String
  | .satisfiable => "satisfiable"
  | .unknown => "unknown"
  | .noErrorFound => "no_error_found"
  | .inconclusive _ => "inconclusive"

def isDefinite : Verdict → Bool
  | .satisfiable => true
  | .noErrorFound => true
  | _ => false

def isInconclusive : Verdict → Bool
  | .inconclusive _ => true
  | _ => false

def toJson (verdict : Verdict) : Json :=
  .obj (("verdict", .str verdict.kind) :: match verdict with
    | .inconclusive reason => [("reason", .str reason)]
    | _ => [])

end Verdict

def Nanoseconds.toJson (span : Nanoseconds) : Json :=
  .obj [("secs", .num (Nanoseconds.seconds span)), ("nanos", .num (Nanoseconds.belowSecond span))]

/-- `extensions` counts the transition formulas that were unrolled. -/
structure Outcome where
  verdict : Verdict
  timestep : Nat
  trace : Option Trace := none
  elapsed : Nanoseconds := 0
  queries : Nat := 0
  extensions : Nat := 0
  deriving DecidableEq, Inhabited

namespace Outcome

/-- The time spent, as the texts of outcomes end with it. -/
def elapsedText (span : Nanoseconds) : String :=
  s!" (elapsed {Nanoseconds.seconds span}s, {Nanoseconds.millis span}ms)"

def text (outcome : Outcome) : String :=
  (match outcome.verdict with
    | .satisfiable => s!"SATISFIABLE at timestep: {outcome.timestep}"
    | .unknown => s!"UNKNOWN after timestep: {outcome.timestep}"
    | .noErrorFound => s!"No error found for bound of {outcome.timestep}"
    | .inconclusive reason => s!"INCONCLUSIVE at timestep: {outcome.timestep}: {reason}") ++
    elapsedText outcome.elapsed

def toJson (outcome : Outcome) : Json :=
  .obj [("verdict", outcome.verdict.toJson), ("timestep", .num outcome.timestep),
    ("path", Json.ofOption Trace.toJson outcome.trace),
    ("elapsed", Nanoseconds.toJson outcome.elapsed), ("queries", .num outcome.queries),
    ("extensions", .num outcome.extensions)]

end Outcome

end Trivalent
