import Trivalent.Text.Numeral

/-!
The range of double-precision numbers. Decimal notation reaches beyond it, and a number out of range
is no number of a document.
-/

set_option autoImplicit false

namespace Trivalent.Json

/-- The nearest number with at most 53 significant bits; a tie goes to the even one. -/
def roundToDouble (number : Nat) : Nat :=
  if number < Nat.pow 2 53 then number
  else
    let shift := number.log2 - 52
    let unit := Nat.pow 2 shift
    let quotient := number / unit
    let twice := 2 * (number % unit)
    if unit < twice ∨ (twice = unit ∧ quotient % 2 = 1) then (quotient + 1) * unit
    else quotient * unit

/-- From here on a product rounds to infinity: halfway beyond the largest finite double. -/
def doubleLimit : Nat := Nat.pow 2 1024 - Nat.pow 2 970

/-- Whether `significand * 10 ^ exponent` is too large. Both factors are doubles of their own, and
308 is the largest exponent that has one. -/
def exceedsDouble (significand : Nat) (exponent : Int) : Bool :=
  match exponent with
  | .ofNat power =>
      if 308 < power then significand != 0
      else doubleLimit ≤ roundToDouble significand * roundToDouble (Nat.pow 10 power)
  | .negSucc _ => false

end Trivalent.Json
