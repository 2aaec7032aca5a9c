/-!
Decimal numerals of machine words, without a sign. A canonical numeral has no leading zero, so that
every word has exactly one.
-/

set_option autoImplicit false

namespace Trivalent

/-- Words are the natural numbers below this limit. -/
def wordLimit : Nat := Nat.pow 2 64

namespace Numeral

/-- Read a numeral of a word. -/
def word? (digits : List Char) : Option Nat :=
  if digits = [] ∨ ¬digits.all Char.isDigit then none
  else
    let value := Nat.ofDigitChars 10 digits 0
    if value < wordLimit then some value else none

/-- Read a canonical numeral of a word. -/
def parse? (digits : List Char) : Option Nat :=
  if 1 < digits.length ∧ digits.head? = some '0' then none else word? digits

end Numeral

end Trivalent
