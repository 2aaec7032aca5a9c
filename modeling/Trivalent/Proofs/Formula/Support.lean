import Trivalent.Proofs.Formula.Dependence

/-!
The support of a formula, from two sides. By the tree, it lists the names of the literals that lie within
the formula at any depth (`mem_support_iff_occurs`). By the values, it lists the names that some part of
the formula depends on (`mem_support_iff_dependsOn`). A part can be cut off by its surroundings, as in a
conjunction with a false constant, so that the formula itself may depend on fewer names, but never on
others. The main statement is `support_exact`.
-/

set_option autoImplicit false

namespace Trivalent.Formula

/-- The formulas that a formula is made of directly. -/
def parts : Formula → List Formula
  | .const _ => []
  | .lit _ => []
  | .and parts => parts
  | .or parts => parts
  | .not part => [part]
  | .implies premise conclusion => [premise, conclusion]

/-- A formula lies within itself, and what lies within a part lies within the whole. -/
inductive Within (inner : Formula) : Formula → Prop where
  | whole : Within inner inner
  | under {outer part : Formula} : part ∈ outer.parts → Within inner part → Within inner outer

/-- A name occurs in a formula if a literal within the formula has the name. -/
def Occurs (name : String) (formula : Formula) : Prop :=
  ∃ literal : Literal, Within (.lit literal) formula ∧ literal.name = name

theorem Occurs.of_part {name : String} {formula part : Formula} (member : part ∈ formula.parts)
    (occurs : Occurs name part) : Occurs name formula := by
  obtain ⟨literal, within, named⟩ := occurs
  exact ⟨literal, .under member within, named⟩

/-! ### Names and occurrences -/

theorem names_subset_of_mem_parts {formula part : Formula} (member : part ∈ formula.parts) :
    part.names ⊆ formula.names := by
  intro name found
  cases formula with
  | const value => cases member
  | lit literal => cases member
  | and parts => exact mem_namesOfAll.mpr ⟨part, member, found⟩
  | or parts => exact mem_namesOfAll.mpr ⟨part, member, found⟩
  | not inner =>
      cases List.mem_singleton.mp member
      exact found
  | implies premise conclusion =>
      simp only [parts, List.mem_cons, List.not_mem_nil, or_false] at member
      rcases member with rfl | rfl
      · exact List.mem_append_left _ found
      · exact List.mem_append_right _ found

theorem Within.names_subset {inner outer : Formula} (within : Within inner outer) :
    inner.names ⊆ outer.names := by
  induction within with
  | whole => exact fun _ found => found
  | under member _ ih => exact fun _ found => names_subset_of_mem_parts member (ih found)

-- The induction is the one of `names`, so a list of parts is taken apart as it is collected.
mutual

theorem occurs_of_mem_names {name : String} : ∀ formula : Formula,
    name ∈ formula.names → Occurs name formula
  | .const _, found => by cases found
  | .lit literal, found => ⟨literal, .whole, (List.mem_singleton.mp found).symm⟩
  | .and parts, found => by
      obtain ⟨part, member, occurs⟩ := exists_occurs_of_mem_namesOfAll parts found
      exact .of_part member occurs
  | .or parts, found => by
      obtain ⟨part, member, occurs⟩ := exists_occurs_of_mem_namesOfAll parts found
      exact .of_part member occurs
  | .not part, found => .of_part List.mem_cons_self (occurs_of_mem_names part found)
  | .implies premise conclusion, found => by
      rcases List.mem_append.mp found with before | after
      · exact .of_part List.mem_cons_self (occurs_of_mem_names premise before)
      · exact .of_part (List.mem_cons_of_mem _ List.mem_cons_self)
          (occurs_of_mem_names conclusion after)

theorem exists_occurs_of_mem_namesOfAll {name : String} : ∀ parts : List Formula,
    name ∈ namesOfAll parts → ∃ part ∈ parts, Occurs name part
  | [], found => by cases found
  | part :: rest, found => by
      rcases List.mem_append.mp found with here | later
      · exact ⟨part, List.mem_cons_self, occurs_of_mem_names part here⟩
      · obtain ⟨other, member, occurs⟩ := exists_occurs_of_mem_namesOfAll rest later
        exact ⟨other, List.mem_cons_of_mem _ member, occurs⟩

end

theorem mem_support_iff_occurs {formula : Formula} {name : String} :
    name ∈ formula.support ↔ Occurs name formula := by
  rw [mem_support]
  constructor
  · exact occurs_of_mem_names formula
  · rintro ⟨literal, within, rfl⟩
    exact within.names_subset (List.mem_singleton.mpr rfl)

/-! ### Names that matter -/

/-- The value of a formula depends on a name if it can change when nothing but that name does. -/
def DependsOn (formula : Formula) (name : String) : Prop :=
  ∃ left right : Assignment, (∀ other, other ≠ name → left.read other = right.read other) ∧
    formula.eval left ≠ formula.eval right

theorem dependsOn_lit (literal : Literal) : DependsOn (.lit literal) literal.name := by
  refine ⟨fun _ => none, fun other => if other = literal.name then some true else none, ?_, ?_⟩
  · intro other different
    simp only [Assignment.read, if_neg different]
  · simp only [eval, Literal.holds, if_pos]
    cases literal.polarity <;> decide

theorem DependsOn.mem_names {formula : Formula} {name : String} (depends : DependsOn formula name) :
    name ∈ formula.names := by
  obtain ⟨left, right, agree, changed⟩ := depends
  by_cases mentioned : name ∈ formula.names
  · exact mentioned
  · refine absurd (eval_congr formula ?_) changed
    intro other found
    apply agree
    rintro rfl
    exact mentioned found

theorem mem_support_iff_dependsOn {formula : Formula} {name : String} :
    name ∈ formula.support ↔ ∃ part, Within part formula ∧ DependsOn part name := by
  constructor
  · intro listed
    obtain ⟨literal, within, rfl⟩ := mem_support_iff_occurs.mp listed
    exact ⟨.lit literal, within, dependsOn_lit literal⟩
  · rintro ⟨part, within, depends⟩
    exact mem_support.mpr (within.names_subset depends.mem_names)

/-- The name is in the support for the sake of the second part, while the whole has one value only. -/
example (left right : Assignment) :
    (and [.const false, .var "a"]).support = ["a"] ∧
      (and [.const false, .var "a"]).eval left = (and [.const false, .var "a"]).eval right :=
  ⟨by decide +kernel, rfl⟩

/-- The support of a formula is in order and without duplicates. It consists of the names of the literals
within the formula, and these are the names that some part of the formula depends on. Two assignments
that agree on the support, where a name without a value is read as false, give the formula the same
value. -/
theorem support_exact (formula : Formula) :
    formula.support.Pairwise (· < ·) ∧ formula.support.Nodup ∧
    (∀ name : String, name ∈ formula.support ↔
      ∃ literal : Literal, Within (.lit literal) formula ∧ literal.name = name) ∧
    (∀ name : String, name ∈ formula.support ↔
      ∃ part : Formula, Within part formula ∧ DependsOn part name) ∧
    ∀ left right : Assignment,
      (∀ name ∈ formula.support, left.read name = right.read name) →
        formula.eval left = formula.eval right := by
  refine ⟨formula.support_increasing, formula.support_nodup, fun name => mem_support_iff_occurs,
    fun name => mem_support_iff_dependsOn, ?_⟩
  intro left right agree
  apply eval_congr
  intro name found
  exact agree name (mem_support.mpr found)

/-- Three names at different depths, of which two occur twice. -/
def woven : Formula :=
  .and [.var "b", .or [.lit ⟨"a", false⟩, .var "b"], .implies (.var "c") (.not (.var "a"))]

def wovenFull : Assignment := fun name => some (name = "b" || name = "d")

def wovenOpen : Assignment := fun name => if name = "b" then some true else none

/-- The second assignment leaves open what the first one says is false, and they differ on a name that
the formula does not have. -/
theorem support_exact_woven :
    woven.support = ["a", "b", "c"] ∧
      (∀ name ∈ woven.support, wovenFull.read name = wovenOpen.read name) ∧
      wovenFull "a" ≠ wovenOpen "a" ∧ wovenFull.read "d" ≠ wovenOpen.read "d" ∧
      woven.eval wovenFull = woven.eval wovenOpen := by
  have agree : ∀ name ∈ woven.support, wovenFull.read name = wovenOpen.read name := by
    decide +kernel
  obtain ⟨_, _, _, _, settled⟩ := support_exact woven
  exact ⟨by decide +kernel, agree, by decide, by decide, settled wovenFull wovenOpen agree⟩

end Trivalent.Formula
