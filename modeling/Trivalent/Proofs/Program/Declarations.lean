import Mathlib.Data.List.Basic
import Trivalent.Program

/-!
Programs as sequences of declarations. The processes of a program are those declared, in order; its
predicate table has every declared name once, in order of first declaration and with the id of the
last one. One more declaration keeps these facts, so they hold after any number of them.
-/

set_option autoImplicit false

namespace Trivalent

inductive Declaration where
  | process (name : String) (locations : UInt64)
  | predicate (name : String) (id : UInt64)
  deriving DecidableEq

namespace Declaration

def process? : Declaration → Option Process
  | .process name locations => some ⟨name, locations⟩
  | .predicate _ _ => none

def predicate? : Declaration → Option (String × UInt64)
  | .process _ _ => none
  | .predicate name id => some (name, id)

end Declaration

/-! ### Predicate tables -/

namespace PredicateTable

variable {name : String} {id : UInt64} {entries : List (String × UInt64)}

theorem entries_insert (table : PredicateTable) (name : String) (id : UInt64) :
    (table.insert name id).entries = put name id table.entries :=
  rfl

theorem put_of_notMem (fresh : name ∉ entries.map Prod.fst) (id : UInt64) :
    put name id entries = entries ++ [(name, id)] := by
  induction entries with
  | nil => rfl
  | cons entry rest ih =>
      rw [List.map_cons, List.mem_cons, not_or] at fresh
      rw [put, if_neg (Ne.symm fresh.1), ih fresh.2, List.cons_append]

theorem names_put_of_mem (known : name ∈ entries.map Prod.fst) (id : UInt64) :
    (put name id entries).map Prod.fst = entries.map Prod.fst := by
  induction entries with
  | nil => cases known
  | cons entry rest ih =>
      by_cases same : entry.1 = name
      · rw [put, if_pos same, List.map_cons, List.map_cons, same]
      · have later := (List.mem_cons.mp known).resolve_left (Ne.symm same)
        rw [put, if_neg same, List.map_cons, List.map_cons, ih later]

theorem mem_put (distinct : (entries.map Prod.fst).Nodup) {entry : String × UInt64}
    (member : entry ∈ put name id entries) :
    entry = (name, id) ∨ (entry ∈ entries ∧ entry.1 ≠ name) := by
  induction entries with
  | nil => exact Or.inl (List.mem_singleton.mp member)
  | cons first rest ih =>
      obtain ⟨fresh, restDistinct⟩ := List.nodup_cons.mp distinct
      by_cases same : first.1 = name
      · rw [put, if_pos same] at member
        rcases List.mem_cons.mp member with new | old
        · exact Or.inl new
        · refine Or.inr ⟨List.mem_cons_of_mem first old, ?_⟩
          intro again
          exact fresh (same ▸ again ▸ List.mem_map_of_mem old)
      · rw [put, if_neg same] at member
        rcases List.mem_cons.mp member with rfl | later
        · exact Or.inr ⟨List.mem_cons_self, same⟩
        · rcases ih restDistinct later with new | ⟨old, different⟩
          · exact Or.inl new
          · exact Or.inr ⟨List.mem_cons_of_mem first old, different⟩

/-- The table has the declared names in order of first declaration, each with its last id. -/
structure Records (table : PredicateTable) (declared : List (String × UInt64)) : Prop where
  names : ∀ name, name ∈ table.entries.map Prod.fst ↔ name ∈ declared.map Prod.fst
  ordered : (table.entries.map Prod.fst).Pairwise fun left right =>
    (declared.map Prod.fst).idxOf left < (declared.map Prod.fst).idxOf right
  latest : ∀ entry ∈ table.entries, declared.reverse.lookup entry.1 = some entry.2

theorem records_empty : Records .empty [] where
  names name := Iff.rfl
  ordered := List.Pairwise.nil
  latest entry absent := by cases absent

variable {table : PredicateTable} {declared : List (String × UInt64)}

theorem Records.ordered_insert (records : table.Records declared) (name : String) (id : UInt64) :
    ((table.insert name id).entries.map Prod.fst).Pairwise fun left right =>
      ((declared ++ [(name, id)]).map Prod.fst).idxOf left <
        ((declared ++ [(name, id)]).map Prod.fst).idxOf right := by
  rw [List.map_append, List.map_singleton]
  have kept : (table.entries.map Prod.fst).Pairwise fun left right =>
      (declared.map Prod.fst ++ [name]).idxOf left <
        (declared.map Prod.fst ++ [name]).idxOf right := by
    refine records.ordered.imp_of_mem ?_
    intro left right leftMember rightMember before
    rw [List.idxOf_append_of_mem ((records.names left).mp leftMember),
      List.idxOf_append_of_mem ((records.names right).mp rightMember)]
    exact before
  by_cases known : name ∈ table.entries.map Prod.fst
  · rw [entries_insert, names_put_of_mem known]
    exact kept
  · have undeclared : name ∉ declared.map Prod.fst := fun found => known ((records.names name).mpr found)
    rw [entries_insert, put_of_notMem known, List.map_append, List.map_singleton]
    refine List.pairwise_append.mpr ⟨kept, List.pairwise_singleton _ _, ?_⟩
    intro left leftMember right rightMember
    have declaredLeft := (records.names left).mp leftMember
    rw [List.mem_singleton.mp rightMember, List.idxOf_append_of_mem declaredLeft,
      List.idxOf_append_of_notMem undeclared]
    exact Nat.lt_of_lt_of_le (List.idxOf_lt_length_of_mem declaredLeft) (Nat.le_add_right _ _)

theorem Records.insert (records : table.Records declared) (name : String) (id : UInt64) :
    (table.insert name id).Records (declared ++ [(name, id)]) where
  names other := by
    rw [entries_insert, mem_names_put, records.names, List.map_append, List.mem_append,
      List.map_singleton, List.mem_singleton]
    exact or_comm
  ordered := records.ordered_insert name id
  latest entry member := by
    rw [List.reverse_append, List.reverse_singleton, List.singleton_append, List.lookup_cons]
    rcases mem_put table.distinct member with rfl | ⟨old, different⟩
    · rw [beq_self_eq_true]
    · rw [beq_false_of_ne different]
      exact records.latest entry old

end PredicateTable

/-! ### Programs -/

namespace Program

def declare (program : Program) : Declaration → Program
  | .process name locations => program.withProcess name locations
  | .predicate name id => program.withPredicate name id

/-- The program that the declarations make, one after the other. -/
def ofDeclarations (declarations : List Declaration) : Program :=
  declarations.foldl declare {}

structure Declares (program : Program) (declarations : List Declaration) : Prop where
  processes : program.processes = declarations.filterMap Declaration.process?
  predicates : program.predicates.Records (declarations.filterMap Declaration.predicate?)

variable {program : Program} {declarations : List Declaration}

theorem Declares.declare (declares : program.Declares declarations) (declaration : Declaration) :
    (program.declare declaration).Declares (declarations ++ [declaration]) := by
  cases declaration with
  | process name locations =>
      constructor
      · rw [List.filterMap_append, ← declares.processes]
        rfl
      · rw [List.filterMap_append]
        exact (List.append_nil _).symm ▸ declares.predicates
  | predicate name id =>
      constructor
      · rw [List.filterMap_append]
        exact (List.append_nil _).symm ▸ declares.processes
      · rw [List.filterMap_append]
        exact declares.predicates.insert name id

theorem Declares.foldl (declares : program.Declares declarations) (later : List Declaration) :
    (later.foldl Program.declare program).Declares (declarations ++ later) := by
  induction later generalizing program declarations with
  | nil =>
      rw [List.append_nil]
      exact declares
  | cons declaration rest ih =>
      have next := ih (declares.declare declaration)
      rw [List.append_assoc, List.singleton_append] at next
      exact next

theorem declares_ofDeclarations (declarations : List Declaration) :
    (ofDeclarations declarations).Declares declarations := by
  have none : Declares {} [] := ⟨rfl, PredicateTable.records_empty⟩
  exact none.foldl declarations

end Program

end Trivalent
