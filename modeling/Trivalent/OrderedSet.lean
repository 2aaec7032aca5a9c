/-!
Finite sets as strictly increasing lists. Two sets with the same members are the same list, so a set
is printed in one order only. The main statements are `mem_insert` and `mem_ofList`.
-/

set_option autoImplicit false

namespace Trivalent

/-- A finite set, kept as the strictly increasing list of its members. -/
structure OrderedSet (α : Type) [LT α] where
  toList : List α
  increasing : toList.Pairwise (· < ·)

namespace OrderedSet

variable {α : Type} [LT α]

instance [DecidableEq α] : DecidableEq (OrderedSet α) := fun left right =>
  decidable_of_iff (left.toList = right.toList) (by cases left; cases right; simp)

def empty : OrderedSet α := ⟨[], List.Pairwise.nil⟩

instance : Inhabited (OrderedSet α) := ⟨empty⟩

instance : Membership α (OrderedSet α) := ⟨fun set member => member ∈ set.toList⟩

theorem mem_def {member : α} {set : OrderedSet α} : member ∈ set ↔ member ∈ set.toList := Iff.rfl

instance [DecidableEq α] (member : α) (set : OrderedSet α) : Decidable (member ∈ set) :=
  inferInstanceAs (Decidable (member ∈ set.toList))

variable [DecidableLT α] [DecidableEq α]

/-- Put a member before the first larger one, unless it is there already. -/
def place (member : α) : List α → List α
  | [] => [member]
  | head :: rest =>
      if member < head then member :: head :: rest
      else if member = head then head :: rest
      else head :: place member rest

theorem mem_place {other member : α} {members : List α} :
    other ∈ place member members ↔ other = member ∨ other ∈ members := by
  induction members with
  | nil => simp [place]
  | cons head rest ih =>
      by_cases before : member < head
      · simp [place, before]
      · by_cases same : member = head
        · subst same
          simp [place, before]
        · simp [place, before, same, ih]
          grind

variable [Trans (fun left right : α => left < right) (fun left right : α => left < right)
  (fun left right : α => left < right)] [Std.Trichotomous (fun left right : α => left < right)]

theorem increasing_place (member : α) {members : List α} (increasing : members.Pairwise (· < ·)) :
    (place member members).Pairwise (· < ·) := by
  induction members with
  | nil => simp [place]
  | cons head rest ih =>
      obtain ⟨below, restIncreasing⟩ := List.pairwise_cons.mp increasing
      by_cases before : member < head
      · simp only [place, if_pos before]
        refine List.pairwise_cons.mpr ⟨fun other found => ?_, increasing⟩
        rcases List.mem_cons.mp found with rfl | later
        · exact before
        · exact Trans.trans (r := fun left right : α => left < right)
            (s := fun left right : α => left < right) before (below other later)
      · by_cases same : member = head
        · simpa only [place, if_neg before, if_pos same] using increasing
        · simp only [place, if_neg before, if_neg same]
          refine List.pairwise_cons.mpr ⟨fun other found => ?_, ih restIncreasing⟩
          rcases mem_place.mp found with rfl | later
          · exact Classical.byContradiction fun notAfter =>
              same (Std.Trichotomous.trichotomous (r := fun left right : α => left < right)
                other head before notAfter)
          · exact below other later

def insert (set : OrderedSet α) (member : α) : OrderedSet α :=
  ⟨place member set.toList, increasing_place member set.increasing⟩

theorem mem_insert {set : OrderedSet α} {member other : α} :
    other ∈ set.insert member ↔ other = member ∨ other ∈ set :=
  mem_place

def ofList (members : List α) : OrderedSet α :=
  members.foldl insert empty

private theorem mem_foldl_insert {members : List α} {set : OrderedSet α} {other : α} :
    other ∈ members.foldl insert set ↔ other ∈ members ∨ other ∈ set := by
  induction members generalizing set with
  | nil => simp
  | cons head rest ih =>
      rw [List.foldl_cons, ih, mem_insert, List.mem_cons]
      grind

theorem mem_ofList {members : List α} {other : α} :
    other ∈ ofList members ↔ other ∈ members :=
  mem_foldl_insert.trans (by simp [mem_def, empty])

end OrderedSet

end Trivalent
