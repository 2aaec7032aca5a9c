import Trivalent.Literal

/-!
Propositional formulas over named variables, their value under an assignment and the variables they
mention. Conjunctions and disjunctions take any number of parts. The combinators `conj`, `disj` and
`negate` leave out the nodes that would say nothing.
-/

set_option autoImplicit false

namespace Trivalent

inductive Formula where
  | const (value : Bool)
  | lit (literal : Literal)
  | and (parts : List Formula)
  | or (parts : List Formula)
  | not (part : Formula)
  | implies (premise conclusion : Formula)
  deriving Inhabited

namespace Formula

/-- The variable itself. -/
def var (name : String) : Formula := .lit ⟨name, true⟩

/-! ### Equality of trees -/

mutual

def same : Formula → Formula → Bool
  | .const left, .const right => left == right
  | .lit left, .lit right => left == right
  | .and left, .and right => sameList left right
  | .or left, .or right => sameList left right
  | .not left, .not right => same left right
  | .implies leftPremise left, .implies rightPremise right =>
      same leftPremise rightPremise && same left right
  | _, _ => false

def sameList : List Formula → List Formula → Bool
  | [], [] => true
  | left :: lefts, right :: rights => same left right && sameList lefts rights
  | _, _ => false

end

mutual

theorem same_iff : ∀ left right : Formula, same left right = true ↔ left = right
  | .const left, right => by cases right <;> simp [same]
  | .lit left, right => by cases right <;> simp [same]
  | .and left, right => by cases right <;> simp [same, sameList_iff left]
  | .or left, right => by cases right <;> simp [same, sameList_iff left]
  | .not left, right => by cases right <;> simp [same, same_iff left]
  | .implies premise left, right => by
      cases right <;> simp [same, same_iff premise, same_iff left]

theorem sameList_iff : ∀ lefts rights : List Formula, sameList lefts rights = true ↔ lefts = rights
  | [], rights => by cases rights <;> simp [sameList]
  | left :: lefts, rights => by
      cases rights <;> simp [sameList, same_iff left, sameList_iff lefts]

end

instance : DecidableEq Formula := fun left right =>
  decidable_of_iff (same left right = true) (same_iff left right)

/-! ### Combinators -/

/-- Conjunction of a list. A single part stands for itself. -/
def conj : List Formula → Formula
  | [] => .const true
  | [part] => part
  | parts => .and parts

/-- Disjunction of a list. A single part stands for itself. -/
def disj : List Formula → Formula
  | [] => .const false
  | [part] => part
  | parts => .or parts

def both (left right : Formula) : Formula := conj [left, right]

def either (left right : Formula) : Formula := disj [left, right]

/-- Complement, pushed into constants and literals; a second negation takes the first one off. -/
def negate : Formula → Formula
  | .const value => .const !value
  | .lit literal => .lit ⟨literal.name, !literal.polarity⟩
  | .not part => part
  | formula => .not formula

/-! ### Value under an assignment -/

mutual

def eval (assignment : Assignment) : Formula → Bool
  | .const value => value
  | .lit literal => literal.holds assignment
  | .and parts => evalAll assignment parts
  | .or parts => evalAny assignment parts
  | .not part => !eval assignment part
  | .implies premise conclusion => !eval assignment premise || eval assignment conclusion

def evalAll (assignment : Assignment) : List Formula → Bool
  | [] => true
  | part :: rest => eval assignment part && evalAll assignment rest

def evalAny (assignment : Assignment) : List Formula → Bool
  | [] => false
  | part :: rest => eval assignment part || evalAny assignment rest

end

theorem evalAll_eq_all (assignment : Assignment) (parts : List Formula) :
    evalAll assignment parts = parts.all (eval assignment) := by
  induction parts with
  | nil => rfl
  | cons part rest ih => rw [evalAll, ih, List.all_cons]

theorem evalAny_eq_any (assignment : Assignment) (parts : List Formula) :
    evalAny assignment parts = parts.any (eval assignment) := by
  induction parts with
  | nil => rfl
  | cons part rest ih => rw [evalAny, ih, List.any_cons]

theorem eval_conj (assignment : Assignment) (parts : List Formula) :
    (conj parts).eval assignment = parts.all (eval assignment) := by
  match parts with
  | [] => rfl
  | [part] => simp [conj]
  | first :: second :: rest => exact evalAll_eq_all assignment _

theorem eval_disj (assignment : Assignment) (parts : List Formula) :
    (disj parts).eval assignment = parts.any (eval assignment) := by
  match parts with
  | [] => rfl
  | [part] => simp [disj]
  | first :: second :: rest => exact evalAny_eq_any assignment _

theorem eval_negate (assignment : Assignment) (formula : Formula) :
    formula.negate.eval assignment = !formula.eval assignment := by
  cases formula with
  | lit literal =>
      cases value : (assignment literal.name).getD false <;> cases sign : literal.polarity <;>
        simp [negate, eval, Literal.holds, value, sign]
  | const value => rfl
  | not part => simp [negate, eval]
  | and parts => rfl
  | or parts => rfl
  | implies premise conclusion => rfl

/-! ### Variables -/

mutual

/-- The names of all literals, in order of occurrence. -/
def names : Formula → List String
  | .const _ => []
  | .lit literal => [literal.name]
  | .and parts => namesOfAll parts
  | .or parts => namesOfAll parts
  | .not part => names part
  | .implies premise conclusion => names premise ++ names conclusion

def namesOfAll : List Formula → List String
  | [] => []
  | part :: rest => names part ++ namesOfAll rest

end

/-- The names that occur, each once and in increasing order. -/
def support (formula : Formula) : List String :=
  (OrderedSet.ofList formula.names).toList

mutual

/-- The same tree with every name replaced. -/
def rename (change : String → String) : Formula → Formula
  | .const value => .const value
  | .lit literal => .lit ⟨change literal.name, literal.polarity⟩
  | .and parts => .and (renameAll change parts)
  | .or parts => .or (renameAll change parts)
  | .not part => .not (rename change part)
  | .implies premise conclusion => .implies (rename change premise) (rename change conclusion)

def renameAll (change : String → String) : List Formula → List Formula
  | [] => []
  | part :: rest => rename change part :: renameAll change rest

end

end Formula

end Trivalent
