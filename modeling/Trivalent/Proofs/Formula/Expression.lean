import Trivalent.Proofs.Formula.Dependence

/-!
Expressions over formulas. An expression says how a formula is put together, from nodes taken as they
are and from combinators. A combinator may leave nodes out, so that the formula can look different from
the expression at every level; but it has the expression's meaning (`eval_build_iff`) and no other names
than the expression mentions (`mem_names_build`).
-/

set_option autoImplicit false

namespace Trivalent.Formula

/-- The nodes of formulas, and the combinators on lists, pairs and single formulas. An implication is
always a node. -/
inductive Expression where
  | const (value : Bool)
  | lit (literal : Literal)
  | and (parts : List Expression)
  | or (parts : List Expression)
  | not (part : Expression)
  | implies (premise conclusion : Expression)
  | conj (parts : List Expression)
  | disj (parts : List Expression)
  | both (left right : Expression)
  | either (left right : Expression)
  | negate (part : Expression)

namespace Expression

mutual

/-- The formula that an expression makes. -/
def build : Expression → Formula
  | .const value => .const value
  | .lit literal => .lit literal
  | .and parts => .and (buildAll parts)
  | .or parts => .or (buildAll parts)
  | .not part => .not (build part)
  | .implies premise conclusion => .implies (build premise) (build conclusion)
  | .conj parts => Formula.conj (buildAll parts)
  | .disj parts => Formula.disj (buildAll parts)
  | .both left right => Formula.both (build left) (build right)
  | .either left right => Formula.either (build left) (build right)
  | .negate part => (build part).negate

def buildAll : List Expression → List Formula
  | [] => []
  | part :: rest => build part :: buildAll rest

end

theorem buildAll_eq_map (parts : List Expression) : buildAll parts = parts.map build := by
  induction parts with
  | nil => rfl
  | cons part rest ih => rw [buildAll, ih, List.map_cons]

theorem forall_mem_buildAll {parts : List Expression} {motive : Formula → Prop} :
    (∀ formula ∈ buildAll parts, motive formula) ↔ ∀ part ∈ parts, motive part.build := by
  rw [buildAll_eq_map, List.forall_mem_map]

theorem exists_mem_buildAll {parts : List Expression} {motive : Formula → Prop} :
    (∃ formula ∈ buildAll parts, motive formula) ↔ ∃ part ∈ parts, motive part.build := by
  rw [buildAll_eq_map]
  constructor
  · rintro ⟨formula, member, holds⟩
    obtain ⟨part, inParts, rfl⟩ := List.mem_map.mp member
    exact ⟨part, inParts, holds⟩
  · rintro ⟨part, inParts, holds⟩
    exact ⟨part.build, List.mem_map_of_mem inParts, holds⟩

/-! ### What an expression says -/

/-- The truth of an expression, where a combinator means the same as the node it stands for. -/
def Holds (value : String → Bool) : Expression → Prop
  | .const constant => constant = true
  | .lit literal => value literal.name = literal.polarity
  | .and parts => ∀ part ∈ parts, Holds value part
  | .or parts => ∃ part, ∃ _ : part ∈ parts, Holds value part
  | .not part => ¬Holds value part
  | .implies premise conclusion => Holds value premise → Holds value conclusion
  | .conj parts => ∀ part ∈ parts, Holds value part
  | .disj parts => ∃ part, ∃ _ : part ∈ parts, Holds value part
  | .both left right => Holds value left ∧ Holds value right
  | .either left right => Holds value left ∨ Holds value right
  | .negate part => ¬Holds value part

/-- The expressions that an expression is made of directly. -/
def parts : Expression → List Expression
  | .const _ => []
  | .lit _ => []
  | .and parts => parts
  | .or parts => parts
  | .not part => [part]
  | .implies premise conclusion => [premise, conclusion]
  | .conj parts => parts
  | .disj parts => parts
  | .both left right => [left, right]
  | .either left right => [left, right]
  | .negate part => [part]

/-- A name occurs in an expression if some literal in it, at any depth, has the name. -/
inductive Mentions (name : String) : Expression → Prop where
  | literal (polarity : Bool) : Mentions name (.lit ⟨name, polarity⟩)
  | within {expression part : Expression} :
      part ∈ expression.parts → Mentions name part → Mentions name expression

theorem sizeOf_lt_of_mem_parts {expression part : Expression} (member : part ∈ expression.parts) :
    sizeOf part < sizeOf expression := by
  cases expression with
  | const value => cases member
  | lit literal => cases member
  | and parts | or parts | conj parts | disj parts =>
      have inList : sizeOf part < sizeOf parts := List.sizeOf_lt_of_mem member
      simp only [and.sizeOf_spec, or.sizeOf_spec, conj.sizeOf_spec, disj.sizeOf_spec]
      omega
  | not inner | negate inner =>
      cases List.mem_singleton.mp member
      simp only [not.sizeOf_spec, negate.sizeOf_spec]
      omega
  | implies left right | both left right | either left right =>
      simp only [parts, List.mem_cons, List.not_mem_nil, or_false] at member
      simp only [implies.sizeOf_spec, both.sizeOf_spec, either.sizeOf_spec]
      rcases member with rfl | rfl <;> omega

/-- What holds of an expression whenever it holds of its parts holds of every expression. -/
theorem forall_of_parts {motive : Expression → Prop}
    (step : ∀ expression, (∀ part ∈ expression.parts, motive part) → motive expression)
    (expression : Expression) : motive expression :=
  step expression fun part _ => forall_of_parts step part
termination_by sizeOf expression
decreasing_by exact sizeOf_lt_of_mem_parts (by assumption)

/-! ### What the formula says -/

/-- The value of the formula, one level at a time. -/
theorem eval_build_step {assignment : Assignment} {expression : Expression}
    (ih : ∀ part ∈ expression.parts,
      part.build.eval assignment = true ↔ part.Holds assignment.read) :
    expression.build.eval assignment = true ↔ expression.Holds assignment.read := by
  cases expression with
  | const value => rw [build, eval, Holds]
  | lit literal => rw [build, eval, Holds, Literal.holds_iff]
  | and parts =>
      rw [build, eval, Holds, evalAll_eq_all, List.all_eq_true, forall_mem_buildAll]
      exact forall₂_congr ih
  | or parts =>
      rw [build, eval, Holds, evalAny_eq_any, List.any_eq_true, exists_mem_buildAll]
      simp only [exists_prop]
      exact exists_congr fun part => and_congr_right (ih part)
  | not part =>
      rw [build, eval, Holds, Bool.not_eq_true', ← Bool.not_eq_true, ih part List.mem_cons_self]
  | implies premise conclusion =>
      rw [build, eval, Holds, Bool.or_eq_true, Bool.not_eq_true', ← Bool.not_eq_true,
        ← Decidable.imp_iff_not_or, ih premise List.mem_cons_self,
        ih conclusion (List.mem_cons_of_mem _ List.mem_cons_self)]
  | conj parts =>
      rw [build, Holds, eval_conj_iff, forall_mem_buildAll]
      exact forall₂_congr ih
  | disj parts =>
      rw [build, Holds, eval_disj_iff, exists_mem_buildAll]
      simp only [exists_prop]
      exact exists_congr fun part => and_congr_right (ih part)
  | both left right =>
      rw [build, Holds, Formula.both, eval_conj_iff, List.forall_mem_cons,
        List.forall_mem_singleton, ih left List.mem_cons_self,
        ih right (List.mem_cons_of_mem _ List.mem_cons_self)]
  | either left right =>
      rw [build, Holds, Formula.either, eval_disj_iff]
      simp only [List.mem_cons, List.not_mem_nil, or_false, exists_eq_or_imp, exists_eq_left]
      rw [ih left List.mem_cons_self, ih right (List.mem_cons_of_mem _ List.mem_cons_self)]
  | negate part =>
      rw [build, Holds, eval_negate, Bool.not_eq_true', ← Bool.not_eq_true,
        ih part List.mem_cons_self]

theorem eval_build_iff (expression : Expression) (assignment : Assignment) :
    expression.build.eval assignment = true ↔ expression.Holds assignment.read := by
  induction expression using forall_of_parts with
  | step expression ih => exact eval_build_step ih

/-- A combinator changes the sign of a literal at most, so the names of a formula are those of its
parts. -/
theorem mem_names_build_step {name : String} {expression : Expression} :
    name ∈ expression.build.names ↔
      (∃ polarity, expression = .lit ⟨name, polarity⟩) ∨
        ∃ part ∈ expression.parts, name ∈ part.build.names := by
  cases expression with
  | const value => simp [build, names, parts]
  | lit literal =>
      obtain ⟨found, polarity⟩ := literal
      cases polarity <;> simp [build, names, parts, eq_comm]
  | and inner => simp [build, names, parts, mem_namesOfAll, exists_mem_buildAll]
  | or inner => simp [build, names, parts, mem_namesOfAll, exists_mem_buildAll]
  | not part => simp [build, names, parts]
  | implies premise conclusion => simp [build, names, parts]
  | conj inner => simp [build, parts, mem_names_conj, exists_mem_buildAll]
  | disj inner => simp [build, parts, mem_names_disj, exists_mem_buildAll]
  | both left right => simp [build, parts, Formula.both, mem_names_conj]
  | either left right => simp [build, parts, Formula.either, mem_names_disj]
  | negate part => simp [build, parts, names_negate]

theorem mentions_iff {name : String} {expression : Expression} :
    expression.Mentions name ↔
      (∃ polarity, expression = .lit ⟨name, polarity⟩) ∨
        ∃ part ∈ expression.parts, part.Mentions name := by
  constructor
  · intro mentions
    cases mentions with
    | literal polarity => exact Or.inl ⟨polarity, rfl⟩
    | within member inner => exact Or.inr ⟨_, member, inner⟩
  · rintro (⟨polarity, rfl⟩ | ⟨part, member, inner⟩)
    · exact .literal polarity
    · exact .within member inner

theorem mem_names_build (expression : Expression) (name : String) :
    name ∈ expression.build.names ↔ expression.Mentions name := by
  induction expression using forall_of_parts with
  | step expression ih =>
      rw [mem_names_build_step, mentions_iff]
      exact or_congr_right (exists_congr fun part => and_congr_right (ih part))

/-- Whatever the nesting, the formula of an expression has the value that the expression says, under
every assignment, and its variables are the names that the expression mentions. -/
theorem build_means (expression : Expression) :
    (∀ assignment : Assignment,
      expression.build.eval assignment = true ↔ expression.Holds assignment.read) ∧
    ∀ name : String, name ∈ expression.build.support ↔ expression.Mentions name := by
  refine ⟨expression.eval_build_iff, ?_⟩
  intro name
  rw [mem_support, mem_names_build]

/-- Of two negations, a conjunction of one part and a negated literal, only the sign of the literal is
left. -/
example :
    (negate (.conj [.negate (.both (.lit ⟨"a", true⟩) (.negate (.lit ⟨"b", true⟩)))])).build =
      .and [.lit ⟨"a", true⟩, .lit ⟨"b", false⟩] :=
  rfl

end Expression

end Trivalent.Formula
