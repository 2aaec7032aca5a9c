import Trivalent.Text.Numeral

/-!
Canonical numerals. The numeral of a word is its decimal digits, and no other text is read as a
numeral: `Numeral.parse?` inverts `Nat.repr` on the words and refuses everything else.
-/

set_option autoImplicit false

namespace Trivalent.Numeral

/-- The number that a decimal digit stands for. -/
def digitValue (digit : Char) : Nat := digit.toNat - '0'.toNat

theorem digitValue_lt {digit : Char} (decimal : digit.isDigit = true) : digitValue digit < 10 := by
  simp only [Char.isDigit, Bool.and_eq_true, decide_eq_true_eq, UInt32.le_iff_toNat_le] at decimal
  have above : digit.toNat ≤ 57 := decimal.2
  have zero : '0'.toNat = 48 := rfl
  unfold digitValue
  omega

theorem digitChar_digitValue {digit : Char} (decimal : digit.isDigit = true) :
    (digitValue digit).digitChar = digit := by
  have small := digitValue_lt decimal
  simp only [Char.isDigit, Bool.and_eq_true, decide_eq_true_eq, UInt32.le_iff_toNat_le] at decimal
  have below : 48 ≤ digit.toNat := decimal.1
  have zero : '0'.toNat = 48 := rfl
  apply Char.toNat_inj.mp
  rw [Nat.toNat_digitChar_of_lt_ten small]
  unfold digitValue
  omega

theorem toDigits_digitValue {digit : Char} (decimal : digit.isDigit = true) :
    Nat.toDigits 10 (digitValue digit) = [digit] := by
  rw [Nat.toDigits_of_lt_base (digitValue_lt decimal), digitChar_digitValue decimal]

/-- Digits read behind a positive number are appended to its numeral. -/
theorem toDigits_ofDigitChars {digits : List Char} {value : Nat} (positive : 0 < value)
    (decimal : ∀ digit ∈ digits, digit.isDigit = true) :
    Nat.toDigits 10 (Nat.ofDigitChars 10 digits value) = Nat.toDigits 10 value ++ digits := by
  induction digits generalizing value with
  | nil => rw [Nat.ofDigitChars_nil, List.append_nil]
  | cons digit rest ih =>
      have first : digit.isDigit = true := decimal digit List.mem_cons_self
      have later : ∀ other ∈ rest, other.isDigit = true :=
        fun other member => decimal other (List.mem_cons_of_mem digit member)
      calc Nat.toDigits 10 (Nat.ofDigitChars 10 (digit :: rest) value)
          = Nat.toDigits 10 (Nat.ofDigitChars 10 rest (10 * value + digitValue digit)) := by
            rw [Nat.ofDigitChars_cons, digitValue]
        _ = Nat.toDigits 10 (10 * value + digitValue digit) ++ rest := ih (by omega) later
        _ = Nat.toDigits 10 value ++ Nat.toDigits 10 (digitValue digit) ++ rest := by
            rw [Nat.toDigits_append_toDigits (by decide) positive (digitValue_lt first)]
        _ = Nat.toDigits 10 value ++ digit :: rest := by
            rw [toDigits_digitValue first, List.append_assoc, List.singleton_append]

theorem head?_toDigits_ne_zero {value : Nat} (positive : 0 < value) :
    (Nat.toDigits 10 value).head? ≠ some '0' := by
  induction value using Nat.strongRecOn with
  | ind value ih =>
      by_cases small : value < 10
      · rw [Nat.toDigits_of_lt_base small, List.head?_cons]
        intro zero
        have isZero := Nat.digitChar_eq_zero.mp (Option.some.inj zero)
        omega
      · have shorter := ih (value / 10) (by omega) (by omega)
        rw [Nat.toDigits_of_base_le (by decide) (by omega)]
        cases front : Nat.toDigits 10 (value / 10) with
        | nil => exact absurd front Nat.toDigits_ne_nil
        | cons digit rest =>
            rw [front] at shorter
            exact shorter

/-- A canonical numeral consists of digits and does not start with a zero unless it is alone. -/
structure Canonical (digits : List Char) : Prop where
  nonempty : digits ≠ []
  decimal : ∀ digit ∈ digits, digit.isDigit = true
  unpadded : 1 < digits.length → digits.head? ≠ some '0'

theorem canonical_toDigits (value : Nat) : Canonical (Nat.toDigits 10 value) where
  nonempty := Nat.toDigits_ne_nil
  decimal _ member := Nat.isDigit_of_mem_toDigits (by decide) (by decide) member
  unpadded long := by
    apply head?_toDigits_ne_zero
    apply Nat.pos_of_ne_zero
    intro zero
    rw [zero, Nat.toDigits_zero] at long
    exact absurd long (by decide)

theorem Canonical.toDigits_eq {digits : List Char} (canonical : Canonical digits) :
    Nat.toDigits 10 (Nat.ofDigitChars 10 digits 0) = digits := by
  cases digits with
  | nil => exact absurd rfl canonical.nonempty
  | cons digit rest =>
      have first : digit.isDigit = true := canonical.decimal digit List.mem_cons_self
      have later : ∀ other ∈ rest, other.isDigit = true :=
        fun other member => canonical.decimal other (List.mem_cons_of_mem digit member)
      have begun : Nat.ofDigitChars 10 (digit :: rest) 0 =
          Nat.ofDigitChars 10 rest (digitValue digit) := by
        rw [Nat.ofDigitChars_cons, Nat.mul_zero, Nat.zero_add, digitValue]
      cases rest with
      | nil => rw [begun, Nat.ofDigitChars_nil, toDigits_digitValue first]
      | cons second rest =>
          have positive : 0 < digitValue digit := by
            apply Nat.pos_of_ne_zero
            intro zero
            have isZero : digit = '0' := by
              rw [← digitChar_digitValue first, zero]
              rfl
            have long : 1 < (digit :: second :: rest).length := by simp
            exact canonical.unpadded long (by rw [isZero, List.head?_cons])
          rw [begun, toDigits_ofDigitChars positive later, toDigits_digitValue first,
            List.singleton_append]

theorem parse?_eq_some_iff_canonical {digits : List Char} {value : Nat} :
    parse? digits = some value ↔
      Canonical digits ∧ Nat.ofDigitChars 10 digits 0 = value ∧ value < wordLimit := by
  simp only [parse?, word?, Option.ite_none_left_eq_some, Option.ite_none_right_eq_some,
    Option.some.injEq, not_or, not_and, Decidable.not_not, List.all_eq_true]
  constructor
  · rintro ⟨unpadded, ⟨nonempty, decimal⟩, small, rfl⟩
    exact ⟨⟨nonempty, decimal, unpadded⟩, rfl, small⟩
  · rintro ⟨⟨nonempty, decimal, unpadded⟩, rfl, small⟩
    exact ⟨unpadded, ⟨nonempty, decimal⟩, small, rfl⟩

/-- Exactly the decimal digits of a word are read as that word. -/
theorem parse?_eq_some_iff {digits : List Char} {value : Nat} :
    parse? digits = some value ↔ digits = Nat.toDigits 10 value ∧ value < wordLimit := by
  rw [parse?_eq_some_iff_canonical]
  constructor
  · rintro ⟨canonical, rfl, small⟩
    exact ⟨canonical.toDigits_eq.symm, small⟩
  · rintro ⟨rfl, small⟩
    exact ⟨canonical_toDigits value, Nat.ofDigitChars_ten_toDigits, small⟩

theorem parse?_toDigits {value : Nat} (small : value < wordLimit) :
    parse? (Nat.toDigits 10 value) = some value :=
  parse?_eq_some_iff.mpr ⟨rfl, small⟩

/-- A text with a character that is no digit is not the numeral of any number. -/
theorem toDigits_ne_of_mem {text : List Char} {char : Char} (member : char ∈ text)
    (foreign : char.isDigit = false) (value : Nat) : Nat.toDigits 10 value ≠ text := by
  rintro rfl
  rw [(canonical_toDigits value).decimal char member] at foreign
  cases foreign

end Trivalent.Numeral
