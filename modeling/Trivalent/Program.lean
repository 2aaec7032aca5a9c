import Trivalent.Location

/-!
Programs under check: processes with numbered locations, and predicates with the ids that their
variables carry. Predicates keep the order in which they were first declared.
-/

set_option autoImplicit false

namespace Trivalent

structure Process where
  name : String
  locations : UInt64
  deriving DecidableEq, Inhabited

/-- The number of location digits of a process. -/
def Process.digits (process : Process) : Nat :=
  Location.digitsFor process.locations.toNat

/-- Predicates with their ids, in order of first declaration. -/
structure PredicateTable where
  entries : List (String × UInt64)
  distinct : (entries.map Prod.fst).Nodup
  deriving DecidableEq

namespace PredicateTable

def empty : PredicateTable := ⟨[], List.nodup_nil⟩

instance : Inhabited PredicateTable := ⟨empty⟩

/-- Give a name an id: in its old place if the name is there, at the end if it is new. -/
def put (name : String) (id : UInt64) : List (String × UInt64) → List (String × UInt64)
  | [] => [(name, id)]
  | entry :: rest => if entry.1 = name then (name, id) :: rest else entry :: put name id rest

theorem mem_names_put {name other : String} {id : UInt64} {entries : List (String × UInt64)} :
    other ∈ (put name id entries).map Prod.fst ↔ other = name ∨ other ∈ entries.map Prod.fst := by
  induction entries with
  | nil => simp [put]
  | cons entry rest ih =>
      by_cases same : entry.1 = name
      · simp [put, same]
      · rw [put, if_neg same, List.map_cons, List.mem_cons, ih, List.map_cons, List.mem_cons]
        grind

theorem distinct_put (name : String) (id : UInt64) {entries : List (String × UInt64)}
    (distinct : (entries.map Prod.fst).Nodup) : ((put name id entries).map Prod.fst).Nodup := by
  induction entries with
  | nil => simp [put]
  | cons entry rest ih =>
      obtain ⟨fresh, restDistinct⟩ := List.nodup_cons.mp distinct
      by_cases same : entry.1 = name
      · simpa [put, same] using distinct
      · rw [put, if_neg same, List.map_cons]
        refine List.nodup_cons.mpr ⟨fun found => ?_, ih restDistinct⟩
        exact (mem_names_put.mp found).elim same fresh

def insert (table : PredicateTable) (name : String) (id : UInt64) : PredicateTable :=
  ⟨put name id table.entries, distinct_put name id table.distinct⟩

end PredicateTable

structure Program where
  processes : List Process := []
  predicates : PredicateTable := .empty
  deriving DecidableEq, Inhabited

namespace Program

def withProcess (program : Program) (name : String) (locations : UInt64) : Program :=
  { program with processes := program.processes ++ [⟨name, locations⟩] }

/-- Declare a predicate. A name declared before keeps its place and takes the new id. -/
def withPredicate (program : Program) (name : String) (id : UInt64) : Program :=
  { program with predicates := program.predicates.insert name id }

/-- The number of location digits of a process; an unknown process has none. -/
def digits (program : Program) (process : Nat) : Nat :=
  (program.processes[process]?).elim 0 Process.digits

/-- The formula that puts a process at a location, if there is such a process. -/
def encodeLocation? (program : Program) (process location timestep : Nat) : Option Formula :=
  (program.processes[process]?).map fun known =>
    Location.encode timestep process location known.digits

end Program

end Trivalent
