import Mathlib.Algebra.Group.Nat.Defs
import Trivalent.Location
import Trivalent.Proofs.Formula.Dependence

/-!
Locations and their digits. A list of digits, the most significant first, spells a number; reading up
to 64 digits never fails and gives that number, and the formula of a location asks for exactly the
digits that spell it.
-/

set_option autoImplicit false

namespace Trivalent.Location

/-- So many digits are enough exactly if they have a pattern for every location. -/
theorem digitsFor_le_iff {count digits : Nat} : digitsFor count ≤ digits ↔ count ≤ 2 ^ digits := by
  have positive : 0 < 2 ^ digits := Nat.two_pow_pos digits
  unfold digitsFor
  split
  · omega
  · have several : count - 1 ≠ 0 := by omega
    rw [Nat.add_one_le_iff, Nat.log2_lt several]
    omega

theorem digitsFor_le {count : Nat} (word : count < wordLimit) : digitsFor count ≤ 64 :=
  digitsFor_le_iff.mpr (Nat.le_of_lt word)

/-- The number that a list of digits spells. -/
def ofDigits : List Bool → Nat
  | [] => 0
  | digit :: rest => 2 ^ rest.length * digit.toNat + ofDigits rest

theorem ofDigits_lt (digits : List Bool) : ofDigits digits < 2 ^ digits.length := by
  induction digits with
  | nil => decide
  | cons digit rest ih =>
      have single : digit.toNat ≤ 1 := Bool.toNat_le digit
      have high : 2 ^ rest.length * digit.toNat ≤ 2 ^ rest.length := by
        simpa using Nat.mul_le_mul_left (2 ^ rest.length) single
      rw [ofDigits, List.length_cons, Nat.pow_succ]
      omega

theorem testBit_ofDigits (digits : List Bool) (index : Nat) (within : index < digits.length) :
    (ofDigits digits).testBit (digits.length - 1 - index) = digits[index] := by
  induction digits generalizing index with
  | nil => exact absurd within (Nat.not_lt_zero index)
  | cons digit rest ih =>
      rw [ofDigits, List.length_cons, Nat.add_sub_cancel,
        Nat.testBit_two_pow_mul_add digit.toNat (ofDigits_lt rest)]
      cases index with
      | zero =>
          rw [Nat.sub_zero, if_neg (Nat.lt_irrefl rest.length), Nat.sub_self]
          cases digit <;> rfl
      | succ index =>
          have inRest : index < rest.length := Nat.lt_of_succ_lt_succ within
          rw [if_pos (by omega), List.getElem_cons_succ, ← ih index inRest]
          congr 1
          omega

/-- A number of so many digits is a location, as far as the digits go, if its bits are those of the
location. -/
theorem eq_mod_iff {value location digits : Nat} (small : value < 2 ^ digits) :
    value = location % 2 ^ digits ↔
      ∀ digit < digits,
        value.testBit (digits - 1 - digit) = location.testBit (digits - 1 - digit) := by
  constructor
  · intro same digit within
    have low : digits - 1 - digit < digits := by omega
    rw [same, Nat.testBit_mod_two_pow, decide_eq_true low, Bool.true_and]
  · intro bits
    apply Nat.eq_of_testBit_eq
    intro bit
    rw [Nat.testBit_mod_two_pow]
    by_cases low : bit < digits
    · have mirrored : digits - 1 - (digits - 1 - bit) = bit := by omega
      have same := bits (digits - 1 - bit) (by omega)
      rw [mirrored] at same
      rw [same, decide_eq_true low, Bool.true_and]
    · have beyond : value < 2 ^ bit :=
        Nat.lt_of_lt_of_le small (Nat.pow_le_pow_right Nat.zero_lt_two (Nat.le_of_not_lt low))
      rw [Nat.testBit_lt_two_pow beyond, decide_eq_false low, Bool.false_and]

def digitChar : Bool → Char
  | true => '1'
  | false => '0'

/-- Digits are read up to the end of them if the value is a word, and else an overflow is reported,
wherever in them it comes up. -/
theorem parseFrom_append (text : String) {value : Nat} (word : value < wordLimit)
    (digits : List Bool) (rest : List Char) :
    parseFrom text value (digits.map digitChar ++ rest) =
      if value * 2 ^ digits.length + ofDigits digits < wordLimit then
        parseFrom text (value * 2 ^ digits.length + ofDigits digits) rest
      else .error (.overflow text) := by
  induction digits generalizing value with
  | nil =>
      rw [List.map_nil, List.nil_append, List.length_nil, Nat.pow_zero, Nat.mul_one, ofDigits,
        Nat.add_zero, if_pos word]
  | cons digit others ih =>
      have next : 2 * value + (if digitChar digit = '1' then 1 else 0) = 2 * value + digit.toNat := by
        cases digit <;> rfl
      have binary : digitChar digit = '0' ∨ digitChar digit = '1' := by
        cases digit
        · exact Or.inl rfl
        · exact Or.inr rfl
      have total : value * 2 ^ (digit :: others).length + ofDigits (digit :: others) =
          (2 * value + digit.toNat) * 2 ^ others.length + ofDigits others := by
        rw [ofDigits, List.length_cons, Nat.pow_succ', ← Nat.mul_assoc, Nat.mul_comm value 2,
          Nat.add_mul, Nat.mul_comm digit.toNat, Nat.add_assoc]
      rw [List.map_cons, List.cons_append, parseFrom, if_pos binary, total]
      simp only [next]
      by_cases small : 2 * value + digit.toNat < wordLimit
      · rw [if_pos small, ih small]
      · -- the digits still to come do not make the value smaller
        have grown : 2 * value + digit.toNat ≤
            (2 * value + digit.toNat) * 2 ^ others.length + ofDigits others :=
          Nat.le_trans (Nat.le_mul_of_pos_right _ (Nat.two_pow_pos others.length))
            (Nat.le_add_right _ _)
        rw [if_neg small, if_neg (by omega)]

/-- As many digits as a word has are read without an overflow. -/
theorem parse_digits {digits : List Bool} (short : digits.length ≤ 64) :
    parse (String.ofList (digits.map digitChar)) = .ok (ofDigits digits) := by
  have fits : ofDigits digits < wordLimit :=
    Nat.lt_of_lt_of_le (ofDigits_lt digits) (Nat.pow_le_pow_right Nat.zero_lt_two short)
  have read := parseFrom_append (String.ofList (digits.map digitChar)) (show 0 < wordLimit by decide)
    digits []
  rw [Nat.zero_mul, Nat.zero_add, if_pos fits, List.append_nil] at read
  rw [parse, String.toList_ofList, read, parseFrom]

theorem eval_encode_iff {timestep process location digits : Nat} {assignment : Assignment} :
    (encode timestep process location digits).eval assignment = true ↔
      ∀ digit < digits, assignment.read (Atom.location timestep process digit).name =
        location.testBit (digits - 1 - digit) := by
  simp only [encode, Formula.eval_conj_iff, List.forall_mem_map, List.mem_range, Atom.formula,
    Formula.eval, Literal.holds_iff, Atom.literal]

theorem mem_names_encode {timestep process location digits : Nat} {name : String}
    (occurs : name ∈ (encode timestep process location digits).names) :
    ∃ digit < digits, name = (Atom.location timestep process digit).name := by
  obtain ⟨part, member, inPart⟩ := Formula.mem_names_conj.mp occurs
  obtain ⟨digit, within, rfl⟩ := List.mem_map.mp member
  exact ⟨digit, List.mem_range.mp within, List.mem_singleton.mp inPart⟩

end Trivalent.Location
