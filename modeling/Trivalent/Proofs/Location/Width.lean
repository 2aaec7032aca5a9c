import Mathlib.Order.Bounds.Basic
import Trivalent.Proofs.Atom.Names
import Trivalent.Proofs.Location.Digits

/-!
How many digits tell the locations of a process apart. The number is the least one with a pattern for
every location, and on words it can be computed from the zeros in front of the last location. Two
locations below the count then differ in a digit, so no assignment puts a process at both.
-/

set_option autoImplicit false

namespace Trivalent.Location

/-! ### The number of digits -/

theorem isLeast_digitsFor (count : Nat) : IsLeast {digits | count ≤ 2 ^ digits} (digitsFor count) :=
  ⟨digitsFor_le_iff.mp (Nat.le_refl _), fun _ enough => digitsFor_le_iff.mpr enough⟩

theorem digitsFor_mono {count larger : Nat} (below : count ≤ larger) :
    digitsFor count ≤ digitsFor larger :=
  digitsFor_le_iff.mpr (Nat.le_trans below (isLeast_digitsFor larger).1)

/-- The length of a word without the zeros in front of the last location. -/
def wordWidth (count : UInt64) : Nat :=
  if count ≤ 1 then 0 else 64 - (count - 1).toBitVec.clz.toNat

/-- A word that is not zero lies between the powers of two that the zeros in front of it leave. -/
theorem log2_toNat {word : BitVec 64} (positive : word ≠ 0) :
    word.toNat.log2 + 1 = 64 - word.clz.toNat := by
  have above : 2 ^ (63 - word.clz.toNat) ≤ word.toNat :=
    BitVec.two_pow_sub_clz_le_toNat_of_ne_zero (by decide) positive
  have below : word.toNat < 2 ^ (64 - word.clz.toNat) := BitVec.toNat_lt_two_pow_sub_clz
  have zeros : word.clz.toNat < 64 := BitVec.lt_def.mp (BitVec.clz_lt_iff_ne_zero.mpr positive)
  have last : 64 - word.clz.toNat = 63 - word.clz.toNat + 1 := by omega
  have nonzero : word.toNat ≠ 0 := by
    intro zero
    exact positive (BitVec.eq_of_toNat_eq zero)
  rw [last] at below ⊢
  rw [(Nat.log2_eq_iff nonzero).mpr ⟨above, below⟩]

theorem digitsFor_eq_wordWidth (count : UInt64) : digitsFor count.toNat = wordWidth count := by
  have alone : count ≤ 1 ↔ count.toNat ≤ 1 := UInt64.le_iff_toNat_le
  unfold digitsFor wordWidth
  by_cases few : count ≤ 1
  · rw [if_pos few, if_pos (alone.mp few)]
  · have several : ¬count.toNat ≤ 1 := fun most => few (alone.mpr most)
    have last : (count - 1).toBitVec.toNat = count.toNat - 1 :=
      UInt64.toNat_sub_of_le count 1 (UInt64.le_iff_toNat_le.mpr (by
        change 1 ≤ count.toNat
        omega))
    have positive : (count - 1).toBitVec ≠ 0 := by
      intro zero
      rw [zero] at last
      change 0 = count.toNat - 1 at last
      omega
    rw [if_neg few, if_neg several, ← log2_toNat positive, last]

/-! ### Locations apart -/

/-- The process is at the location, as far as the digits go; all other variables are false. -/
def placing (timestep process location digits : Nat) : Assignment := fun name =>
  some ((List.range digits).any fun digit =>
    name == (Atom.location timestep process digit).name && location.testBit (digits - 1 - digit))

theorem eval_encode_placing (timestep process location digits : Nat) :
    (encode timestep process location digits).eval (placing timestep process location digits) =
      true := by
  rw [eval_encode_iff]
  intro digit within
  rw [Bool.eq_iff_iff, Assignment.read, placing, Option.getD_some, List.any_eq_true]
  constructor
  · rintro ⟨other, _, found⟩
    rw [Bool.and_eq_true, beq_iff_eq, Atom.location_name_inj] at found
    rw [found.1.2.2]
    exact found.2
  · intro bit
    refine ⟨digit, List.mem_range.mpr within, ?_⟩
    rw [beq_self_eq_true, bit, Bool.and_self]

/-- Two locations that the digits have patterns for are asked for together only if they are the
same. -/
theorem encode_together_iff {location other digits : Nat} (small : location < 2 ^ digits)
    (otherSmall : other < 2 ^ digits) (timestep process : Nat) :
    (∃ assignment : Assignment,
      (encode timestep process location digits).eval assignment = true ∧
        (encode timestep process other digits).eval assignment = true) ↔
      location = other := by
  constructor
  · rintro ⟨assignment, here, there⟩
    rw [eval_encode_iff] at here there
    have same : location = other % 2 ^ digits := by
      rw [eq_mod_iff small]
      intro digit within
      rw [← here digit within, ← there digit within]
    rw [same, Nat.mod_eq_of_lt otherSmall]
  · rintro rfl
    have placed := eval_encode_placing timestep process location digits
    exact ⟨_, placed, placed⟩

/-- For every word the number of digits is the one computed on words, the least with so many patterns,
at most 64, and it grows with the word. With so many digits the formulas of two locations can hold
together only if the locations are the same. -/
theorem digitsFor_tells_apart (count : UInt64) :
    digitsFor count.toNat = wordWidth count ∧
    IsLeast {digits | count.toNat ≤ 2 ^ digits} (digitsFor count.toNat) ∧
    digitsFor count.toNat ≤ 64 ∧
    (∀ larger : UInt64, count ≤ larger → digitsFor count.toNat ≤ digitsFor larger.toNat) ∧
    ∀ location other timestep process : Nat, location < count.toNat → other < count.toNat →
      ((∃ assignment : Assignment,
        (encode timestep process location (digitsFor count.toNat)).eval assignment = true ∧
          (encode timestep process other (digitsFor count.toNat)).eval assignment = true) ↔
        location = other) := by
  have least := isLeast_digitsFor count.toNat
  refine ⟨digitsFor_eq_wordWidth count, least, digitsFor_le count.toNat_lt, ?_, ?_⟩
  · intro larger below
    exact digitsFor_mono (UInt64.le_iff_toNat_le.mp below)
  · intro location other timestep process within otherWithin
    exact encode_together_iff (Nat.lt_of_lt_of_le within least.1)
      (Nat.lt_of_lt_of_le otherWithin least.1) timestep process

/-- One location more than half of the words needs the last digit, which only the last location has
set. -/
theorem digitsFor_tells_apart_half :
    (9223372036854775809 : UInt64) ≤ 18446744073709551615 ∧
      digitsFor 9223372036854775809 ≤ digitsFor 18446744073709551615 ∧
      9223372036854775808 < 9223372036854775809 ∧ 0 < 9223372036854775809 ∧
      ¬∃ assignment : Assignment,
        (encode 2 1 9223372036854775808 64).eval assignment = true ∧
          (encode 2 1 0 64).eval assignment = true := by
  obtain ⟨_, _, _, grows, apart⟩ := digitsFor_tells_apart 9223372036854775809
  have most : (9223372036854775809 : UInt64) ≤ 18446744073709551615 := by decide
  have together := apart 9223372036854775808 0 2 1 (by decide) (by decide)
  refine ⟨most, grows 18446744073709551615 most, by decide, by decide, ?_⟩
  intro found
  exact absurd (together.mp found) (by decide)

end Trivalent.Location
