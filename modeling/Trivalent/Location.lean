import Trivalent.Atom
import Trivalent.Error

/-!
Locations in binary. A process with `count` locations has `digitsFor count` digit variables at every
timestep, the most significant digit first; `encode` is the formula that puts a process at a location
and `parse` reads a location from its digits.
-/

set_option autoImplicit false

namespace Trivalent.Location

/-- The number of binary digits that tell `count` locations apart. -/
def digitsFor (count : Nat) : Nat :=
  if count ≤ 1 then 0 else (count - 1).log2 + 1

/-- The digit variables of a process spell the location; bits beyond the digits are dropped. -/
def encode (timestep process location digits : Nat) : Formula :=
  Formula.conj ((List.range digits).map fun digit =>
    (Atom.location timestep process digit).formula (location.testBit (digits - 1 - digit)))

/-- Read on from a value already read. `digits` is the whole text, which an error reports. -/
def parseFrom (digits : String) : Nat → List Char → Except DecodeError Nat
  | value, [] => .ok value
  | value, char :: rest =>
      if char = '0' ∨ char = '1' then
        let next := 2 * value + (if char = '1' then 1 else 0)
        if next < wordLimit then parseFrom digits next rest else .error (.overflow digits)
      else .error (.invalidDigit digits char)

/-- Read a location from its digits. No digits at all spell location 0. -/
def parse (digits : String) : Except DecodeError Nat :=
  parseFrom digits 0 digits.toList

end Trivalent.Location
