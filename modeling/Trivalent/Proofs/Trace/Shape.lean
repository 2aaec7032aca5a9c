import Mathlib.Algebra.Group.Nat.Defs
import Trivalent.Proofs.Program.Declarations
import Trivalent.Proofs.Trace.Locality

/-!
The shape of a trace. Whatever declarations a program is made of and whatever a model holds, the trace
is read without an error and its states list what was declared. No number on the way leaves the words:
a process has at most 64 digits, so no shift goes beyond a word and no doubling of what has been read
so far overflows.
-/

set_option autoImplicit false

namespace Trivalent

/-! ### Locations in words -/

/-- A bit of a word, shifted to the lowest place. -/
def Location.wordBit (location : UInt64) (shift : Nat) : Bool :=
  (location >>> UInt64.ofNat shift) &&& 1 == 1

theorem Location.wordBit_eq_testBit (location : UInt64) {shift : Nat} (within : shift < 64) :
    wordBit location shift = location.toNat.testBit shift := by
  have amount : (UInt64.ofNat shift).toNat % 64 = shift := by
    rw [UInt64.toNat_ofNat']
    omega
  rw [wordBit, Bool.eq_iff_iff, beq_iff_eq, ← UInt64.toNat_inj, UInt64.toNat_and,
    UInt64.toNat_shiftRight, amount, UInt64.toNat_one, Nat.and_one_is_mod,
    Nat.testBit_eq_decide_div_mod_eq, Nat.shiftRight_eq_div_pow, decide_eq_true_eq]

namespace Program

/-- Writing a location of a process shifts a word by less than its length, and the shifted words have
the bits that the formula asks for. -/
def WritesInWords (program : Program) : Prop :=
  ∀ (timestep process : Nat) (location : UInt64) (known : Process),
    program.processes[process]? = some known →
      (∀ digit < known.digits, known.digits - 1 - digit < 64) ∧
        program.encodeLocation? process location.toNat timestep =
          some (Formula.conj ((List.range known.digits).map fun digit =>
            (Atom.location timestep process digit).formula
              (Location.wordBit location (known.digits - 1 - digit))))

theorem writesInWords (program : Program) : program.WritesInWords := by
  intro timestep process location known found
  have most := known.digits_le
  have shifts : ∀ digit < known.digits, known.digits - 1 - digit < 64 := by
    intro digit within
    omega
  refine ⟨shifts, ?_⟩
  rw [encodeLocation?, found, Option.map_some, Location.encode]
  congr 2
  apply List.map_congr_left
  intro digit member
  rw [Location.wordBit_eq_testBit location (shifts digit (List.mem_range.mp member))]

end Program

namespace Model

/-- Reading the digits of a process one by one: what has been read before a digit is a number, and
with one more digit of any value it is a word. -/
def ReadsInWords (model : Model) (program : Program) : Prop :=
  ∀ (timestep process : Nat) (before : List Char) (char : Char) (after : List Char),
    (model.locationDigits program timestep process).toList = before ++ char :: after →
      ∃ value, Location.parse (String.ofList before) = .ok value ∧ 2 * value + 1 < wordLimit

theorem readsInWords (model : Model) (program : Program) : model.ReadsInWords program := by
  intro timestep process before char after split
  rw [locationDigits_eq, String.toList_ofList] at split
  obtain ⟨read, unread, whole, rfl, rest⟩ := List.map_eq_append_iff.mp split
  have short : read.length < 64 := by
    have total := model.length_digitsOf program timestep process
    have most := program.digits_le process
    have ahead : 0 < unread.length := by
      rw [← List.length_map (f := Location.digitChar), rest]
      exact Nat.succ_pos _
    rw [whole, List.length_append] at total
    omega
  refine ⟨_, Location.parse_digits (Nat.le_of_lt short), ?_⟩
  have below : Location.ofDigits read < 2 ^ 63 :=
    Nat.lt_of_lt_of_le (Location.ofDigits_lt read)
      (Nat.pow_le_pow_right Nat.zero_lt_two (Nat.le_of_lt_succ short))
  change 2 * Location.ofDigits read + 1 < 2 ^ 64
  omega

end Model

/-! ### States -/

/-- The state lists what the declarations of its program say: a location for each process, spelled by
the digits that the model does not deny, a value for each predicate, read by its last id, and the
fairness of each process or none at all. -/
structure State.Lists (state : State) (declarations : List Declaration) (property : Property)
    (model : Model) : Prop where
  processes : state.locations.map ProcessLocation.process =
    List.range (declarations.filterMap Declaration.process?).length
  locations : ∀ place ∈ state.locations, ∃ process,
    (declarations.filterMap Declaration.process?)[place.process]? = some process ∧
      place.location < 2 ^ process.digits ∧
      ∀ digit < process.digits, place.location.testBit (process.digits - 1 - digit) =
        !model.isFalse (Atom.location state.timestep place.process digit).name
  predicates : ∀ name, name ∈ state.predicates.map PredicateStatus.name ↔
    name ∈ (declarations.filterMap Declaration.predicate?).map Prod.fst
  ordered : (state.predicates.map PredicateStatus.name).Pairwise fun left right =>
    ((declarations.filterMap Declaration.predicate?).map Prod.fst).idxOf left <
      ((declarations.filterMap Declaration.predicate?).map Prod.fst).idxOf right
  values : ∀ status ∈ state.predicates, ∃ id,
    (declarations.filterMap Declaration.predicate?).reverse.lookup status.name = some id ∧
      status.value = model.truthOf id.toNat state.timestep
  fairness : state.fairness =
    if property.fairness then
      (List.range (declarations.filterMap Declaration.process?).length).map
        (model.fairnessOf state.timestep)
    else [.notApplicable]

namespace Model

variable {program : Program} {declarations : List Declaration}
  (declares : program.Declares declarations) (model : Model) (property : Property) (timestep : Nat)

theorem names_stateOf :
    (model.stateOf program property timestep).predicates.map PredicateStatus.name =
      program.predicates.entries.map Prod.fst := by
  rw [stateOf, List.map_map]
  rfl

include declares

theorem locations_stateOf (place : ProcessLocation)
    (member : place ∈ (model.stateOf program property timestep).locations) :
    ∃ process, (declarations.filterMap Declaration.process?)[place.process]? = some process ∧
      place.location < 2 ^ process.digits ∧
      ∀ digit < process.digits, place.location.testBit (process.digits - 1 - digit) =
        !model.isFalse (Atom.location timestep place.process digit).name := by
  obtain ⟨process, known, rfl⟩ := List.mem_map.mp member
  have within : process < program.processes.length := List.mem_range.mp known
  have found := List.getElem?_eq_getElem within
  have digits : program.digits process = program.processes[process].digits := by
    rw [Program.digits, found, Option.elim_some]
  refine ⟨program.processes[process], ?_, ?_, ?_⟩
  · rw [← declares.processes]
    exact found
  · rw [← digits]
    exact model.locationOf_lt program timestep process
  · rw [← digits]
    intro digit inDigits
    exact model.testBit_locationOf program inDigits

theorem stateOf_lists :
    (model.stateOf program property timestep).Lists declarations property model where
  processes := by
    rw [stateOf, List.map_map, ← declares.processes]
    exact List.map_id _
  locations := model.locations_stateOf declares property timestep
  predicates name := by
    rw [names_stateOf]
    exact declares.predicates.names name
  ordered := by
    rw [names_stateOf]
    exact declares.predicates.ordered
  values := by
    intro status member
    obtain ⟨entry, recorded, rfl⟩ := List.mem_map.mp member
    exact ⟨entry.2, declares.predicates.latest entry recorded, rfl⟩
  fairness := by
    rw [← declares.processes]
    rfl

end Model

/-- Reading the trace of a program made by declarations never fails. There is a state for each timestep
up to the bound, the states list what was declared, and no location that is read or written leaves the
words. -/
theorem Model.decode_total (declarations : List Declaration) (property : Property) (model : Model)
    (bound : Nat) :
    (∃ trace, model.decode (.ofDeclarations declarations) property bound = .ok trace ∧
      trace.states.map State.timestep = List.range (bound + 1) ∧
      ∀ state ∈ trace.states, state.Lists declarations property model) ∧
      model.ReadsInWords (.ofDeclarations declarations) ∧
      (Program.ofDeclarations declarations).WritesInWords := by
  have declares := Program.declares_ofDeclarations declarations
  refine ⟨⟨_, model.decode_eq _ property bound, ?_, ?_⟩, model.readsInWords _,
    Program.writesInWords _⟩
  · rw [List.map_map]
    exact List.map_id _
  · rw [List.forall_mem_map]
    intro timestep _
    exact model.stateOf_lists declares property timestep

end Trivalent
