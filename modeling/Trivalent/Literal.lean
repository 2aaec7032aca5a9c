import Trivalent.OrderedSet

/-!
Signed occurrences of named Boolean variables, and assignments that give such variables a value. A
variable that an assignment leaves open counts as false.
-/

set_option autoImplicit false

namespace Trivalent

/-- A named variable together with the sign it occurs with. -/
structure Literal where
  name : String
  polarity : Bool
  deriving DecidableEq, Inhabited

/-- The values of the variables, as far as they are known. -/
abbrev Assignment := String → Option Bool

instance transNames : Trans (fun left right : String => left < right)
    (fun left right : String => left < right) (fun left right : String => left < right) where
  trans := String.lt_trans

instance trichotomousNames : Std.Trichotomous (fun left right : String => left < right) where
  trichotomous _ _ notBefore notAfter :=
    String.le_antisymm (String.not_lt.mp notAfter) (String.not_lt.mp notBefore)

namespace Literal

/-- The text of a literal: its name, with a tilde in front of a negative one. -/
def text (literal : Literal) : String :=
  if literal.polarity then literal.name else "~" ++ literal.name

def holds (literal : Literal) (assignment : Assignment) : Bool :=
  (assignment literal.name).getD false == literal.polarity

/-- Literals are ordered by name; of one name the negative literal comes first. -/
instance : LT Literal :=
  ⟨fun left right => left.name < right.name ∨
    (left.name = right.name ∧ left.polarity < right.polarity)⟩

theorem lt_iff {left right : Literal} :
    left < right ↔ left.name < right.name ∨
      (left.name = right.name ∧ left.polarity < right.polarity) :=
  Iff.rfl

instance : DecidableLT Literal := fun left right =>
  inferInstanceAs (Decidable (left.name < right.name ∨
    (left.name = right.name ∧ left.polarity < right.polarity)))

instance : Trans (fun left right : Literal => left < right)
    (fun left right : Literal => left < right) (fun left right : Literal => left < right) where
  trans {left middle right} first second := by
    rcases first with names | ⟨names, signs⟩
    · rcases second with names' | ⟨names', _⟩
      · exact Or.inl (String.lt_trans names names')
      · exact Or.inl (names' ▸ names)
    · rcases second with names' | ⟨names', signs'⟩
      · exact Or.inl (names ▸ names')
      · exact Or.inr ⟨names.trans names', Bool.lt_trans signs signs'⟩

private theorem sign_eq :
    ∀ left right : Bool, ¬left < right → ¬right < left → left = right := by
  decide

instance : Std.Trichotomous (fun left right : Literal => left < right) where
  trichotomous left right notBefore notAfter := by
    rcases left with ⟨leftName, leftSign⟩
    rcases right with ⟨rightName, rightSign⟩
    simp only [lt_iff, not_or, not_and] at notBefore notAfter
    have names : leftName = rightName :=
      Std.Trichotomous.trichotomous (r := fun left right : String => left < right)
        leftName rightName notBefore.1 notAfter.1
    subst names
    rw [sign_eq leftSign rightSign (notBefore.2 rfl) (notAfter.2 rfl)]

end Literal

end Trivalent
