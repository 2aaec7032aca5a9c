import Trivalent.Json.Reader.Quoted

/-!
Passing over values that do not matter. Their form is checked, but numbers may be of any size,
surrogates may stand alone and brackets may be nested to any depth.
-/

set_option autoImplicit false

namespace Trivalent.Json

namespace Reader

def skipDigits : Reader Unit := fun chars => .ok ((), chars.dropWhile Char.isDigit)

/-- At least one digit. -/
def someDigits : Reader Unit := fun chars =>
  if chars.head?.any Char.isDigit then skipDigits chars else .error .malformed

def skipExponent : Reader Unit := fun chars =>
  match chars with
  | '+' :: rest => someDigits rest
  | '-' :: rest => someDigits rest
  | _ => someDigits chars

def skipFraction : Reader Unit := do
  someDigits
  fun chars => match chars with
    | 'e' :: rest => skipExponent rest
    | 'E' :: rest => skipExponent rest
    | _ => .ok ((), chars)

/-- A number without its sign, of any size. -/
def skipNumber : Reader Unit := do
  fun chars => match chars with
    | '0' :: rest => if rest.head?.any Char.isDigit then .error .malformed else .ok ((), rest)
    | _ => someDigits chars
  fun chars => match chars with
    | '.' :: rest => skipFraction rest
    | 'e' :: rest => skipExponent rest
    | 'E' :: rest => skipExponent rest
    | _ => .ok ((), chars)

/-- One character of a string that does not matter; any four hexadecimal digits will do. -/
def skipStringUnit : Reader Bool := fun chars =>
  match chars with
  | [] => .error .ended
  | '"' :: rest => .ok (false, rest)
  | '\\' :: [] => .error .ended
  | '\\' :: 'u' :: rest => do
      let (_, ahead) ← hexEscape rest
      .ok (true, ahead)
  | '\\' :: letter :: rest =>
      if (simpleEscape? letter).isSome then .ok (true, rest) else .error .malformed
  | char :: rest => if char.toNat < 0x20 then .error .malformed else .ok (true, rest)

def skipStringUnits : Nat → Reader Unit
  | 0 => fault .ended
  | fuel + 1 => do
      if ← skipStringUnit then skipStringUnits fuel

/-- The bracket that a value lies in. -/
inductive Bracket where
  | list
  | object
  deriving DecidableEq

def Bracket.closing : Bracket → Char
  | .list => ']'
  | .object => '\x7d'

/-- What comes before a value: in an object a key and a colon. -/
def skipKey (fuel : Nat) : Bracket → Reader Unit
  | .list => pure ()
  | .object => do
      match ← peek with
      | none => fault .ended
      | some '"' => advance; skipStringUnits fuel; colon
      | some _ => fault .malformed

def skipScalar (fuel : Nat) : Reader Unit := do
  match ← peek with
  | none => fault .ended
  | some 'n' => advance; letters "ull".toList
  | some 't' => advance; letters "rue".toList
  | some 'f' => advance; letters "alse".toList
  | some '"' => advance; skipStringUnits fuel
  | some '-' => advance; skipNumber
  | some char => if char.isDigit then skipNumber else fault .malformed

/-- The opening bracket ahead, if a value starts with one. -/
def opening? : Option Char → Option Bracket
  | some '[' => some .list
  | some '\x7b' => some .object
  | _ => none

mutual

/-- A value inside the given brackets, and all that follows it up to the outermost bracket's end. -/
def skipValue : Nat → List Bracket → Reader Unit
  | 0, _ => fault .ended
  | fuel + 1, outer => do
      match opening? (← peek) with
      | none =>
          skipScalar fuel
          skipRest fuel outer
      | some bracket =>
          advance
          match ← peek with
          | none => fault .ended
          | some char =>
              if char = bracket.closing then
                advance
                skipRest fuel outer
              else
                skipKey fuel bracket
                skipValue fuel (bracket :: outer)

/-- What follows a value inside the given brackets. -/
def skipRest : Nat → List Bracket → Reader Unit
  | _, [] => pure ()
  | 0, _ :: _ => fault .ended
  | fuel + 1, bracket :: outer => do
      match ← peek with
      | none => fault .ended
      | some char =>
          if char = ',' then
            advance
            skipKey fuel bracket
            skipValue fuel (bracket :: outer)
          else if char = bracket.closing then
            advance
            skipRest fuel outer
          else fault .malformed

end

/-- A value of any kind, which is dropped. -/
def anyValue : Reader Unit := do
  skipValue ((← remaining) + 1) []

end Reader

end Trivalent.Json
