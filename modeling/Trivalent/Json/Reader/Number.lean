import Trivalent.Json.Double
import Trivalent.Json.Reader.Basic

/-!
Reading numbers. Only words are wanted; any other number is read to its end and told apart.
-/

set_option autoImplicit false

namespace Trivalent.Json

namespace Reader

/-- Take digits as long as the value stays a word: the value, the number of digits taken and the
characters ahead. -/
def accumulate : Nat → List Char → Nat × Nat × List Char
  | value, [] => (value, 0, [])
  | value, char :: rest =>
      let next := 10 * value + (char.toNat - '0'.toNat)
      if char.isDigit ∧ next < wordLimit then
        let (final, taken, ahead) := accumulate next rest
        (final, taken + 1, ahead)
      else (value, 0, char :: rest)

/-- The end of a number that is no word. -/
def beyondWord (significand : Nat) (exponent : Int) : Reader (Option Nat) :=
  if exceedsDouble significand exponent then fault .malformed else pure none

/-- The digits behind the mark of the exponent. -/
def exponentDigits (significand : Nat) (start : Int) (negative : Bool) : Reader (Option Nat) :=
  fun chars =>
    match chars with
    | [] => .error .ended
    | char :: _ =>
        if char.isDigit then
          let power : Int := Nat.ofDigitChars 10 (chars.takeWhile Char.isDigit) 0
          beyondWord significand (if negative then start - power else start + power)
            (chars.dropWhile Char.isDigit)
        else .error .malformed

def exponentPart (significand : Nat) (start : Int) : Reader (Option Nat) := fun chars =>
  match chars with
  | '+' :: rest => exponentDigits significand start false rest
  | '-' :: rest => exponentDigits significand start true rest
  | _ => exponentDigits significand start false chars

/-- What follows the digits of a number that is no word. -/
def numberTail (significand : Nat) (exponent : Int) : Reader (Option Nat) := fun chars =>
  match chars with
  | 'e' :: rest => exponentPart significand exponent rest
  | 'E' :: rest => exponentPart significand exponent rest
  | _ => beyondWord significand exponent chars

def fractionPart (significand : Nat) (exponent : Int) : Reader (Option Nat) := fun chars =>
  match chars with
  | [] => .error .ended
  | char :: _ =>
      if char.isDigit then
        let (value, taken, ahead) := accumulate significand chars
        numberTail value (exponent - taken) (ahead.dropWhile Char.isDigit)
      else .error .malformed

/-- What follows the digits before the point. They spell a word if none of them counts as a power. -/
def integerTail (value exponent : Nat) : Reader (Option Nat) := fun chars =>
  match chars with
  | '.' :: rest => fractionPart value exponent rest
  | 'e' :: rest => exponentPart value exponent rest
  | 'E' :: rest => exponentPart value exponent rest
  | _ => if exponent = 0 then .ok (some value, chars) else beyondWord value exponent chars

/-- A number without its sign: the word that it spells as an integer, or none for any other number.
Digits beyond the last that fits count as powers of ten. -/
def number : Reader (Option Nat) := fun chars =>
  match chars with
  | [] => .error .ended
  | '0' :: rest =>
      if rest.head?.any Char.isDigit then .error .malformed else integerTail 0 0 rest
  | char :: _ =>
      if char.isDigit then
        let (value, _, ahead) := accumulate 0 chars
        integerTail value (ahead.takeWhile Char.isDigit).length (ahead.dropWhile Char.isDigit)
      else .error .malformed

end Reader

end Trivalent.Json
