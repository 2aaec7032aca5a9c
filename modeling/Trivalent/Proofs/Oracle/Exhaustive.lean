import Mathlib.Algebra.Group.Nat.Defs
import Mathlib.Data.List.Nodup
import Mathlib.Data.Nat.Init
import Trivalent.Oracle.Bench
import Trivalent.Proofs.Oracle.Contract

/-!
An oracle that tries every assignment of the variables, whatever their number. It meets the whole
contract of an oracle (`oracle_correct`), also where it is one of several that share a state
(`Oracle.Correct.focus`).
-/

set_option autoImplicit false

namespace Trivalent

namespace TruthTable

theorem eval_of_firstMask {formula : Formula} {names : List String} {count mask found : Nat}
    (search : firstMask formula names count mask = some found) :
    formula.eval (assignment names found) = true := by
  induction count generalizing mask with
  | zero => cases search
  | succ count ih =>
      unfold firstMask at search
      split at search
      · rename_i holds
        cases search
        exact holds
      · exact ih search

theorem not_eval_of_firstMask {formula : Formula} {names : List String} {count mask : Nat}
    (search : firstMask formula names count mask = none) :
    ∀ other, mask ≤ other → other < mask + count →
      ¬formula.eval (assignment names other) = true := by
  induction count generalizing mask with
  | zero =>
      intro other above below
      omega
  | succ count ih =>
      unfold firstMask at search
      split at search
      · cases search
      · rename_i fails
        intro other above below
        rcases Nat.eq_or_lt_of_le above with same | later
        · rw [← same]
          exact fails
        · exact ih search other later (by omega)

/-- The mask that gives the listed variables the values of an assignment. -/
def maskOf (names : List String) (values : Assignment) : Nat :=
  Nat.ofBits fun position : Fin names.length => values.read names[position]

theorem maskOf_lt (names : List String) (values : Assignment) :
    maskOf names values < 2 ^ names.length :=
  Nat.ofBits_lt_two_pow _

theorem read_assignment_maskOf {names : List String} {values : Assignment} {name : String}
    (listed : name ∈ names) :
    Assignment.read (assignment names (maskOf names values)) name = values.read name := by
  have known : (names.idxOf? name).isSome = true := List.isSome_idxOf?.mpr listed
  obtain ⟨position, found⟩ := Option.isSome_iff_exists.mp known
  obtain ⟨within, same, _⟩ := List.idxOf?_eq_some_iff.mp found
  unfold Assignment.read assignment
  rw [found, Option.map_some, Option.getD_some, maskOf, Nat.testBit_ofBits_lt _ _ within]
  exact congrArg values.read same

theorem satisfiable_iff {formula : Formula} {names : List String}
    (listed : ∀ name ∈ formula.names, name ∈ names) :
    formula.Satisfiable ↔
      ∃ mask < 2 ^ names.length, formula.eval (assignment names mask) = true := by
  constructor
  · rintro ⟨values, holds⟩
    refine ⟨maskOf names values, maskOf_lt names values, ?_⟩
    rw [← holds]
    exact Formula.eval_congr formula fun name found => read_assignment_maskOf (listed name found)
  · rintro ⟨mask, _, holds⟩
    exact ⟨assignment names mask, holds⟩

theorem contains_modelOf {names : List String} (distinct : names.Nodup) {mask position : Nat}
    {name : String} (found : names.idxOf? name = some position) (polarity : Bool) :
    (modelOf names mask).contains name polarity = (mask.testBit position == polarity) := by
  obtain ⟨within, same, _⟩ := List.idxOf?_eq_some_iff.mp found
  rw [Bool.eq_iff_iff, beq_iff_eq, modelOf, Model.contains_ofList, List.mem_map]
  constructor
  · rintro ⟨⟨other, place⟩, member, literal⟩
    have otherAt := List.mk_mem_zipIdx_iff_getElem?.mp member
    simp only [Literal.mk.injEq] at literal
    obtain ⟨placeWithin, otherSame⟩ := List.getElem?_eq_some_iff.mp otherAt
    have places : place = position :=
      distinct.getElem_inj_iff.mp (otherSame.trans (literal.1.trans same.symm))
    rw [← places]
    exact literal.2
  · intro sign
    refine ⟨(name, position), ?_, ?_⟩
    · exact List.mk_mem_zipIdx_iff_getElem?.mpr (List.getElem?_eq_some_iff.mpr ⟨within, same⟩)
    · simp only [sign]

theorem modelOf_settles {formula : Formula} {mask : Nat}
    (holds : formula.eval (assignment formula.support mask) = true) :
    (modelOf formula.support mask).Settles formula := by
  have signs : ∀ name ∈ formula.names, ∃ position, formula.support.idxOf? name = some position ∧
      (modelOf formula.support mask).isTrue name = mask.testBit position ∧
      (modelOf formula.support mask).isFalse name = !mask.testBit position := by
    intro name occurs
    have listed := Formula.mem_support.mpr occurs
    obtain ⟨position, found⟩ := Option.isSome_iff_exists.mp (List.isSome_idxOf?.mpr listed)
    refine ⟨position, found, ?_, ?_⟩
    · rw [Model.isTrue, contains_modelOf formula.support_nodup found, beq_true]
    · rw [Model.isFalse, contains_modelOf formula.support_nodup found, beq_false]
  constructor
  · intro name occurs
    obtain ⟨position, _, positive, negative⟩ := signs name occurs
    rw [positive, negative, Bool.not_not]
  · rw [← holds]
    apply Formula.eval_congr
    intro name occurs
    obtain ⟨position, found, positive, _⟩ := signs name occurs
    rw [Model.read_value, positive, Assignment.read, assignment, found, Option.map_some,
      Option.getD_some]

end TruthTable

/-- What the exhaustive oracle remembers: the assertions and the model of its last check. -/
structure Exhaustive where
  asserted : List Formula := []
  model : Option Model := none

namespace Exhaustive

def firstRow (formula : Formula) : Option Nat :=
  TruthTable.firstMask formula formula.support (Nat.pow 2 formula.support.length) 0

def oracle : Oracle Exhaustive where
  reset _ := ⟨.ok (), {}, 0⟩
  assert formula table := ⟨.ok (), { table with asserted := table.asserted ++ [formula] }, 0⟩
  check table :=
    let formula := Formula.conj table.asserted
    match firstRow formula with
    | some mask => ⟨.ok .sat, { table with model := some (TruthTable.modelOf formula.support mask) }, 0⟩
    | none => ⟨.ok .unsat, { table with model := none }, 0⟩
  model := model

theorem satisfiable_iff_firstRow {formula : Formula} :
    formula.Satisfiable ↔ ∃ mask, firstRow formula = some mask := by
  rw [TruthTable.satisfiable_iff fun name => Formula.mem_support.mpr]
  cases found : firstRow formula with
  | some mask =>
      refine iff_of_true ?_ ⟨mask, rfl⟩
      exact (TruthTable.satisfiable_iff fun name => Formula.mem_support.mpr).mp
        ⟨_, TruthTable.eval_of_firstMask found⟩
  | none =>
      refine iff_of_false ?_ (by rintro ⟨mask, impossible⟩; cases impossible)
      rintro ⟨mask, within, holds⟩
      exact TruthTable.not_eval_of_firstMask found mask (Nat.zero_le mask)
        (by rw [Nat.zero_add]; exact within) holds

private theorem checkAll_of_row {formula : Formula} {mask : Nat} (row : firstRow formula = some mask)
    (table : Exhaustive) :
    oracle.checkAll [formula] table =
      ⟨.ok .sat, ⟨[formula], some (TruthTable.modelOf formula.support mask)⟩, 0⟩ := by
  simp [Oracle.checkAll, Reply.andThen, oracle, Formula.conj, row]

private theorem checkAll_of_no_row {formula : Formula} (row : firstRow formula = none)
    (table : Exhaustive) :
    oracle.checkAll [formula] table = ⟨.ok .unsat, ⟨[formula], none⟩, 0⟩ := by
  simp [Oracle.checkAll, Reply.andThen, oracle, Formula.conj, row]

theorem oracle_correct : oracle.Correct where
  sat_iff formula table := by
    rw [satisfiable_iff_firstRow]
    cases row : firstRow formula with
    | some mask => simp only [checkAll_of_row row, Option.some.injEq, exists_eq']
    | none => simp only [checkAll_of_no_row row, Except.ok.injEq, reduceCtorEq, exists_false]
  decides formula table := by
    cases row : firstRow formula with
    | some mask => exact Or.inl (by rw [checkAll_of_row row])
    | none => exact Or.inr (by rw [checkAll_of_no_row row])
  offersModels formula table granted := by
    cases row : firstRow formula with
    | some mask =>
        refine ⟨TruthTable.modelOf formula.support mask, ?_, ?_⟩
        · rw [checkAll_of_row row]
          rfl
        · exact TruthTable.modelOf_settles (TruthTable.eval_of_firstMask row)
    | none =>
        rw [checkAll_of_no_row row] at granted
        cases granted

end Exhaustive

namespace Oracle

variable {σ τ : Type}

private theorem checkAll_focus (oracle : Oracle σ) {get : τ → σ} {put : σ → τ → τ}
    (get_put : ∀ part whole, get (put part whole) = part)
    (put_put : ∀ first second whole, put second (put first whole) = put second whole)
    (parts : List Formula) (whole : τ) :
    (oracle.focus get put).checkAll parts whole =
      widen put whole (oracle.checkAll parts (get whole)) := by
  unfold checkAll Reply.andThen focus widen
  cases (oracle.reset (get whole)).answer with
  | error message => rfl
  | ok value =>
      simp only [get_put]
      cases (oracle.assert (Formula.conj parts) (oracle.reset (get whole)).state).answer with
      | error message => simp only [put_put]
      | ok value => simp only [put_put]

/-- A correct oracle stays correct as a part of a larger state. -/
theorem Correct.focus {oracle : Oracle σ} (correct : oracle.Correct) {get : τ → σ}
    {put : σ → τ → τ} (get_put : ∀ part whole, get (put part whole) = part)
    (put_put : ∀ first second whole, put second (put first whole) = put second whole) :
    (oracle.focus get put).Correct where
  sat_iff formula whole := by
    rw [checkAll_focus oracle get_put put_put]
    exact correct.sat_iff formula (get whole)
  decides formula whole := by
    rw [checkAll_focus oracle get_put put_put]
    exact correct.decides formula (get whole)
  offersModels formula whole granted := by
    rw [checkAll_focus oracle get_put put_put] at granted ⊢
    obtain ⟨model, offered, settles⟩ := correct.offersModels formula (get whole) granted
    refine ⟨model, ?_, settles⟩
    rw [← offered]
    exact congrArg oracle.model (get_put _ whole)

end Oracle

end Trivalent
