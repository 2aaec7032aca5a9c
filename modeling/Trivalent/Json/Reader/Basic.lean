import Trivalent.Error

/-!
Readers of strict JSON. A reader takes the characters ahead and gives back those it leaves. Reading
goes from left to right, guided by what is expected, and the first fault decides: the text ends too
early, a character is wrong where it stands, or a value of another kind begins or ends.

Loops carry the number of characters ahead. Every turn takes at least one of them, so a loop that
comes to 0 has come to the end of the text.
-/

set_option autoImplicit false

namespace Trivalent.Json

abbrev Reader := StateT (List Char) (Except DocumentFault)

namespace Reader

variable {α : Type}

def fault (reason : DocumentFault) : Reader α := fun _ => .error reason

def isSpace (char : Char) : Bool :=
  char == ' ' || char == '\t' || char == '\n' || char == '\r'

/-- Pass over blanks and look at the next character, which stays ahead. -/
def peek : Reader (Option Char) := fun chars =>
  let ahead := chars.dropWhile isSpace
  .ok (ahead.head?, ahead)

/-- Take one character. -/
def advance : Reader Unit := fun chars => .ok ((), chars.tail)

/-- The number of characters ahead. -/
def remaining : Reader Nat := fun chars => .ok (chars.length, chars)

/-- Take exactly these letters. -/
def letters : List Char → Reader Unit
  | [] => pure ()
  | expected :: rest => fun chars =>
      match chars with
      | [] => .error .ended
      | char :: ahead => if char = expected then letters rest ahead else .error .malformed

/-- Take one character that has to be the given one. -/
def expect (expected : Char) : Reader Unit := letters [expected]

/-- A colon. -/
def colon : Reader Unit := do
  match ← peek with
  | none => fault .ended
  | some ':' => advance
  | some _ => fault .malformed

end Reader

end Trivalent.Json
