/-!
Time in whole nanoseconds, and a stopwatch with laps. A stopwatch does not look at a clock itself: it
is told the time.
-/

set_option autoImplicit false

namespace Trivalent

/-- A span or a moment of time, in nanoseconds. -/
abbrev Nanoseconds := Nat

namespace Nanoseconds

def ofSeconds (seconds : Nat) : Nanoseconds := seconds * 1000000000

def seconds (span : Nanoseconds) : Nat := span / 1000000000

def millis (span : Nanoseconds) : Nat := span / 1000000

/-- The nanoseconds beyond the last whole second. -/
def belowSecond (span : Nanoseconds) : Nat := span % 1000000000

end Nanoseconds

structure Stopwatch where
  started : Nanoseconds
  lapStarted : Option Nanoseconds := none
  lastLap : Option Nanoseconds := none
  deriving DecidableEq, Inhabited

namespace Stopwatch

def start (now : Nanoseconds) : Stopwatch := { started := now }

def total (watch : Stopwatch) (now : Nanoseconds) : Nanoseconds := now - watch.started

def startLap (watch : Stopwatch) (now : Nanoseconds) : Stopwatch :=
  { watch with lapStarted := some now }

/-- The time since the lap began, or since the start if none did. The lap is over then. -/
def lap (watch : Stopwatch) (now : Nanoseconds) : Nanoseconds :=
  now - watch.lapStarted.getD watch.started

def endLap (watch : Stopwatch) (now : Nanoseconds) : Stopwatch :=
  { watch with lapStarted := none, lastLap := some (watch.lap now) }

def exceeds (watch : Stopwatch) (now budget : Nanoseconds) : Bool :=
  budget ≤ watch.total now

end Stopwatch

end Trivalent
