import Trivalent.Formula.Basic

/-!
What the value of a formula hangs on: the values of the variables that it mentions, where a variable
left open counts as false. The main statement is `eval_congr`. The literals of a formula are listed
apart from its names, for the sign that a variable occurs with.
-/

set_option autoImplicit false

namespace Trivalent

/-- The value of a variable. One that is left open is false. -/
def Assignment.read (assignment : Assignment) (name : String) : Bool :=
  (assignment name).getD false

theorem Literal.holds_iff {literal : Literal} {assignment : Assignment} :
    literal.holds assignment = true ↔ assignment.read literal.name = literal.polarity := by
  simp only [Literal.holds, Assignment.read, beq_iff_eq]

namespace Formula

def Satisfiable (formula : Formula) : Prop :=
  ∃ assignment : Assignment, formula.eval assignment = true

theorem mem_namesOfAll {name : String} {parts : List Formula} :
    name ∈ namesOfAll parts ↔ ∃ part ∈ parts, name ∈ part.names := by
  induction parts with
  | nil => simp only [namesOfAll, List.not_mem_nil, false_and, exists_false]
  | cons part rest ih =>
      rw [namesOfAll, List.mem_append, ih]
      simp only [List.mem_cons, exists_eq_or_imp]

theorem mem_names_conj {name : String} {parts : List Formula} :
    name ∈ (conj parts).names ↔ ∃ part ∈ parts, name ∈ part.names := by
  match parts with
  | [] => simp only [conj, names, List.not_mem_nil, false_and, exists_false]
  | [part] => simp only [conj, List.mem_singleton, exists_eq_left]
  | first :: second :: rest => exact mem_namesOfAll

theorem mem_names_disj {name : String} {parts : List Formula} :
    name ∈ (disj parts).names ↔ ∃ part ∈ parts, name ∈ part.names := by
  match parts with
  | [] => simp only [disj, names, List.not_mem_nil, false_and, exists_false]
  | [part] => simp only [disj, List.mem_singleton, exists_eq_left]
  | first :: second :: rest => exact mem_namesOfAll

theorem names_negate (formula : Formula) : formula.negate.names = formula.names := by
  cases formula with
  | const value => rfl
  | lit literal => rfl
  | and parts => rfl
  | or parts => rfl
  | not part => rw [negate, names]
  | implies premise conclusion => rfl

theorem mem_support {formula : Formula} {name : String} :
    name ∈ formula.support ↔ name ∈ formula.names :=
  OrderedSet.mem_ofList

theorem support_increasing (formula : Formula) : formula.support.Pairwise (· < ·) :=
  (OrderedSet.ofList formula.names).increasing

theorem support_nodup (formula : Formula) : formula.support.Nodup := by
  refine List.Pairwise.imp ?_ formula.support_increasing
  intro left right below same
  rw [same] at below
  exact String.lt_irrefl right below

mutual

/-- The literals of a formula, in order of occurrence. -/
def literals : Formula → List Literal
  | .const _ => []
  | .lit literal => [literal]
  | .and parts => literalsOfAll parts
  | .or parts => literalsOfAll parts
  | .not part => literals part
  | .implies premise conclusion => literals premise ++ literals conclusion

def literalsOfAll : List Formula → List Literal
  | [] => []
  | part :: rest => literals part ++ literalsOfAll rest

end

theorem literalsOfAll_eq_flatMap (parts : List Formula) :
    literalsOfAll parts = parts.flatMap literals := by
  induction parts with
  | nil => rfl
  | cons part rest ih => rw [literalsOfAll, ih, List.flatMap_cons]

theorem literals_conj (parts : List Formula) : (conj parts).literals = parts.flatMap literals := by
  match parts with
  | [] => rfl
  | [part] => rw [conj, List.flatMap_cons, List.flatMap_nil, List.append_nil]
  | first :: second :: rest => exact literalsOfAll_eq_flatMap _

theorem eval_conj_iff {assignment : Assignment} {parts : List Formula} :
    (conj parts).eval assignment = true ↔ ∀ part ∈ parts, part.eval assignment = true := by
  rw [eval_conj, List.all_eq_true]

theorem eval_disj_iff {assignment : Assignment} {parts : List Formula} :
    (disj parts).eval assignment = true ↔ ∃ part ∈ parts, part.eval assignment = true := by
  rw [eval_disj, List.any_eq_true]

mutual

/-- Two assignments that read alike on the names of a formula give it the same value. -/
theorem eval_congr {left right : Assignment} : ∀ formula : Formula,
    (∀ name ∈ formula.names, left.read name = right.read name) →
      formula.eval left = formula.eval right
  | .const _, _ => rfl
  | .lit literal, agree => by
      have same := agree literal.name (List.mem_singleton.mpr rfl)
      simp only [Assignment.read] at same
      simp only [eval, Literal.holds, same]
  | .and parts, agree => evalAll_congr parts agree
  | .or parts, agree => evalAny_congr parts agree
  | .not part, agree => by rw [eval, eval, eval_congr part agree]
  | .implies premise conclusion, agree => by
      rw [eval, eval,
        eval_congr premise fun name found => agree name (List.mem_append_left _ found),
        eval_congr conclusion fun name found => agree name (List.mem_append_right _ found)]

theorem evalAll_congr {left right : Assignment} : ∀ parts : List Formula,
    (∀ name ∈ namesOfAll parts, left.read name = right.read name) →
      evalAll left parts = evalAll right parts
  | [], _ => rfl
  | part :: rest, agree => by
      rw [evalAll, evalAll,
        eval_congr part fun name found => agree name (List.mem_append_left _ found),
        evalAll_congr rest fun name found => agree name (List.mem_append_right _ found)]

theorem evalAny_congr {left right : Assignment} : ∀ parts : List Formula,
    (∀ name ∈ namesOfAll parts, left.read name = right.read name) →
      evalAny left parts = evalAny right parts
  | [], _ => rfl
  | part :: rest, agree => by
      rw [evalAny, evalAny,
        eval_congr part fun name found => agree name (List.mem_append_left _ found),
        evalAny_congr rest fun name found => agree name (List.mem_append_right _ found)]

end

end Formula

end Trivalent
