import Trivalent.Json.Reader.Basic

/-!
Reading strings behind their opening quote. Control characters must be escaped, and surrogates come
in pairs.
-/

set_option autoImplicit false

namespace Trivalent.Json

namespace Reader

def hexValue? (char : Char) : Option Nat :=
  if char.isDigit then some (char.toNat - '0'.toNat)
  else if 'a' ≤ char ∧ char ≤ 'f' then some (char.toNat - 'a'.toNat + 10)
  else if 'A' ≤ char ∧ char ≤ 'F' then some (char.toNat - 'A'.toNat + 10)
  else none

/-- The number of bytes that characters take. -/
def byteCount (chars : List Char) : Nat :=
  (String.ofList chars).utf8ByteSize

/-- Four hexadecimal digits. The text has ended if fewer than four bytes are ahead. -/
def hexEscape : Reader Nat := fun chars =>
  match (chars.take 4).mapM hexValue? with
  | some [first, second, third, fourth] =>
      .ok (((first * 16 + second) * 16 + third) * 16 + fourth, chars.drop 4)
  | _ => if byteCount (chars.take 4) < 4 then .error .ended else .error .malformed

def isHighSurrogate (unit : Nat) : Bool := 0xD800 ≤ unit && unit ≤ 0xDBFF

def isLowSurrogate (unit : Nat) : Bool := 0xDC00 ≤ unit && unit ≤ 0xDFFF

/-- A character by number: one unit, or a high surrogate with the low one in a second escape. -/
def unicodeEscape : Reader Char := do
  let unit ← hexEscape
  if isLowSurrogate unit then fault .malformed
  else if isHighSurrogate unit then
    expect '\\'
    expect 'u'
    let low ← hexEscape
    if isLowSurrogate low then
      return Char.ofNat ((unit - 0xD800) * 0x400 + (low - 0xDC00) + 0x10000)
    else fault .malformed
  else return Char.ofNat unit

/-- The character that a letter behind a backslash stands for. -/
def simpleEscape? : Char → Option Char
  | '"' => some '"'
  | '\\' => some '\\'
  | '/' => some '/'
  | 'b' => some '\x08'
  | 'f' => some '\x0c'
  | 'n' => some '\n'
  | 'r' => some '\r'
  | 't' => some '\t'
  | _ => none

/-- What follows a backslash. -/
def escape : Reader Char := fun chars =>
  match chars with
  | [] => .error .ended
  | 'u' :: rest => unicodeEscape rest
  | letter :: rest =>
      match simpleEscape? letter with
      | some char => .ok (char, rest)
      | none => .error .malformed

/-- One character of a string, or none at the closing quote. -/
def stringUnit : Reader (Option Char) := fun chars =>
  match chars with
  | [] => .error .ended
  | '"' :: rest => .ok (none, rest)
  | '\\' :: rest => (some <$> escape) rest
  | char :: rest => if char.toNat < 0x20 then .error .malformed else .ok (some char, rest)

def stringUnits : Nat → Reader (List Char)
  | 0 => fault .ended
  | fuel + 1 => do
      match ← stringUnit with
      | some char => return char :: (← stringUnits fuel)
      | none => return []

/-- A string behind its opening quote. -/
def stringTail : Reader String := do
  return String.ofList (← stringUnits (← remaining))

end Reader

end Trivalent.Json
