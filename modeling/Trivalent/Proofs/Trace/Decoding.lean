import Mathlib.Algebra.Group.Nat.Defs
import Trivalent.Proofs.Location.Digits
import Trivalent.Proofs.Oracle.Contract
import Trivalent.Trace.Decode

/-!
Traces read from models, and the formulas of traces. Reading never fails (`decode_eq`). The formula of
a trace mentions location digits only and asks for the digits of every location in it
(`eval_formula_iff`), so a model satisfies the formula of another model's trace exactly if it is at the
same locations (`eval_formula_iff_locationOf_eq`).
-/

set_option autoImplicit false

namespace Trivalent

theorem Process.digits_le (process : Process) : process.digits ≤ 64 :=
  Location.digitsFor_le (UInt64.toNat_lt process.locations)

theorem Program.digits_le (program : Program) (process : Nat) : program.digits process ≤ 64 := by
  unfold Program.digits
  cases program.processes[process]? with
  | none => exact Nat.zero_le 64
  | some known => exact known.digits_le

/-! ### Reading a model -/

namespace Model

variable (model : Model) (program : Program) (property : Property)

/-- The digits of a process in a model, the most significant first. -/
def digitsOf (timestep process : Nat) : List Bool :=
  (List.range (program.digits process)).map fun digit =>
    model.reading.read (Atom.location timestep process digit).name

def locationOf (timestep process : Nat) : Nat :=
  Location.ofDigits (model.digitsOf program timestep process)

def stateOf (timestep : Nat) : State :=
  { timestep
    locations := (List.range program.processes.length).map fun process =>
      ⟨process, model.locationOf program timestep process⟩
    predicates := program.predicates.entries.map (model.decodePredicate timestep)
    fairness := model.decodeFairness program property timestep
    resources := model.decodeResources timestep }

theorem length_digitsOf (timestep process : Nat) :
    (model.digitsOf program timestep process).length = program.digits process := by
  rw [digitsOf, List.length_map, List.length_range]

theorem locationOf_lt (timestep process : Nat) :
    model.locationOf program timestep process < 2 ^ program.digits process := by
  have below := Location.ofDigits_lt (model.digitsOf program timestep process)
  rw [length_digitsOf] at below
  exact below

theorem testBit_locationOf {timestep process digit : Nat}
    (within : digit < program.digits process) :
    (model.locationOf program timestep process).testBit (program.digits process - 1 - digit) =
      model.reading.read (Atom.location timestep process digit).name := by
  have inList : digit < (model.digitsOf program timestep process).length := by
    rw [length_digitsOf]
    exact within
  have bit := Location.testBit_ofDigits _ digit inList
  rw [length_digitsOf] at bit
  rw [locationOf, bit]
  simp only [digitsOf, List.getElem_map, List.getElem_range]

theorem locationDigits_eq (timestep process : Nat) :
    model.locationDigits program timestep process =
      String.ofList ((model.digitsOf program timestep process).map Location.digitChar) := by
  unfold locationDigits digitsOf
  rw [List.map_map]
  congr 2
  funext digit
  simp only [Function.comp_apply, read_reading]
  cases model.isFalse (Atom.location timestep process digit).name <;> rfl

private theorem decodeLocation_eq (timestep : Nat) :
    model.decodeLocation program timestep =
      fun process => .ok ⟨process, model.locationOf program timestep process⟩ := by
  funext process
  have short : (model.digitsOf program timestep process).length ≤ 64 := by
    rw [length_digitsOf]
    exact program.digits_le process
  rw [decodeLocation, locationDigits_eq, Location.parse_digits short]
  rfl

private theorem decodeState_eq :
    model.decodeState program property = fun timestep => .ok (model.stateOf program property timestep) := by
  funext timestep
  rw [decodeState, decodeLocation_eq]
  have read := List.mapM_pure (m := Except DecodeError) (l := List.range program.processes.length)
    (f := fun process => ProcessLocation.mk process (model.locationOf program timestep process))
  exact congrArg (· >>= _) read

theorem decode_eq (bound : Nat) :
    model.decode program property bound =
      .ok ⟨(List.range (bound + 1)).map (model.stateOf program property)⟩ := by
  rw [decode, decodeState_eq]
  have read := List.mapM_pure (m := Except DecodeError) (l := List.range (bound + 1))
    (f := model.stateOf program property)
  exact congrArg (· >>= _) read

end Model

/-! ### Formulas of traces -/

private theorem mapM_ok_iff {α β ε : Type} {action : α → Except ε β} {allowed : α → Prop}
    {value : α → β}
    (each : ∀ item result, action item = .ok result ↔ allowed item ∧ result = value item)
    {items : List α} {results : List β} :
    items.mapM action = .ok results ↔ (∀ item ∈ items, allowed item) ∧ results = items.map value := by
  induction items generalizing results with
  | nil =>
      simp only [List.mapM_nil, List.map_nil, List.not_mem_nil, false_implies, implies_true, true_and]
      constructor
      · intro done
        cases done
        rfl
      · intro empty
        rw [empty]
        rfl
  | cons item rest ih =>
      rw [List.mapM_cons, List.forall_mem_cons, List.map_cons]
      constructor
      · intro mapped
        cases first : action item with
        | error problem =>
            rw [first] at mapped
            cases mapped
        | ok result =>
            cases later : rest.mapM action with
            | error problem =>
                rw [first, later] at mapped
                cases mapped
            | ok others =>
                rw [first, later] at mapped
                cases mapped
                obtain ⟨allowedHere, rfl⟩ := (each item result).mp first
                obtain ⟨allowedLater, rfl⟩ := ih.mp later
                exact ⟨⟨allowedHere, allowedLater⟩, rfl⟩
      · rintro ⟨⟨allowedHere, allowedLater⟩, rfl⟩
        rw [(each item (value item)).mpr ⟨allowedHere, rfl⟩, ih.mpr ⟨allowedLater, rfl⟩]
        rfl

theorem Program.locate_ok_iff {program : Program} {timestep : Nat} {place : ProcessLocation}
    {formula : Formula} :
    program.locate timestep place = .ok formula ↔
      place.process < program.processes.length ∧
        formula = Location.encode timestep place.process place.location
          (program.digits place.process) := by
  unfold Program.locate Program.encodeLocation? Program.digits
  by_cases known : place.process < program.processes.length
  · simp only [List.getElem?_eq_getElem known, Option.map_some, Option.elim_some, Except.ok.injEq,
      known, true_and]
    exact eq_comm
  · have absent := List.getElem?_eq_none (Nat.le_of_not_lt known)
    simp only [absent, Option.map_none, reduceCtorEq, known, false_and]

namespace Trace

def locationAt (trace : Trace) (timestep process : Nat) : Option Nat :=
  trace.states[timestep]?.bind fun state => state.locations[process]?.map ProcessLocation.location

/-- The location formulas of a trace, state by state. -/
def parts (trace : Trace) (program : Program) : List Formula :=
  (trace.states.map fun state => state.locations.map fun place =>
    Location.encode state.timestep place.process place.location
      (program.digits place.process)).flatten

variable {trace : Trace} {program : Program} {formula : Formula}

theorem formula_ok_iff :
    trace.formula program = .ok formula ↔
      (∀ state ∈ trace.states, ∀ place ∈ state.locations,
        place.process < program.processes.length) ∧
        formula = Formula.conj (trace.parts program) := by
  have mapped := @mapM_ok_iff _ _ _ (fun state : State => state.locationFormulas program) _ _
    (fun _ _ => mapM_ok_iff fun _ _ => Program.locate_ok_iff) trace.states
  unfold Trace.formula
  constructor
  · intro encoded
    cases found : trace.states.mapM (·.locationFormulas program) with
    | error problem =>
        rw [found] at encoded
        cases encoded
    | ok lists =>
        rw [found] at encoded
        cases encoded
        obtain ⟨known, rfl⟩ := mapped.mp found
        exact ⟨known, rfl⟩
  · rintro ⟨known, rfl⟩
    rw [mapped.mpr ⟨known, rfl⟩]
    rfl

theorem eval_formula_iff (encoded : trace.formula program = .ok formula)
    {assignment : Assignment} :
    formula.eval assignment = true ↔
      ∀ state ∈ trace.states, ∀ place ∈ state.locations,
        ∀ digit < program.digits place.process,
          assignment.read (Atom.location state.timestep place.process digit).name =
            place.location.testBit (program.digits place.process - 1 - digit) := by
  rw [(formula_ok_iff.mp encoded).2, Formula.eval_conj_iff, parts]
  simp only [List.forall_mem_flatten, List.forall_mem_map, Location.eval_encode_iff]

theorem mem_names_formula (encoded : trace.formula program = .ok formula) {name : String}
    (occurs : name ∈ formula.names) :
    ∃ timestep process digit, name = (Atom.location timestep process digit).name := by
  rw [(formula_ok_iff.mp encoded).2] at occurs
  obtain ⟨part, member, inPart⟩ := Formula.mem_names_conj.mp occurs
  obtain ⟨list, inLists, inList⟩ := List.mem_flatten.mp member
  obtain ⟨state, _, rfl⟩ := List.mem_map.mp inLists
  obtain ⟨place, _, rfl⟩ := List.mem_map.mp inList
  obtain ⟨digit, _, same⟩ := Location.mem_names_encode inPart
  exact ⟨state.timestep, place.process, digit, same⟩

/-! ### Traces of full shape -/

/-- One state for each timestep up to the bound, and in each state the first `count` processes in order,
where `place` puts them. -/
def Follows (trace : Trace) (count bound : Nat) (place : Nat → Nat → Nat) : Prop :=
  trace.states.map (fun state => (state.timestep, state.locations)) =
    (List.range (bound + 1)).map fun timestep =>
      (timestep, (List.range count).map fun process => ⟨process, place timestep process⟩)

namespace Follows

variable {count bound : Nat} {place other : Nat → Nat → Nat}

theorem length_states (follows : trace.Follows count bound place) :
    trace.states.length = bound + 1 := by
  have lengths := congrArg List.length follows
  rw [List.length_map, List.length_map, List.length_range] at lengths
  exact lengths

theorem locationAt_eq (follows : trace.Follows count bound place) {timestep process : Nat}
    (within : timestep ≤ bound) (known : process < count) :
    trace.locationAt timestep process = some (place timestep process) := by
  have states := congrArg (fun pairs => pairs[timestep]?) follows
  simp only [List.getElem?_map, List.getElem?_range (Nat.lt_succ_of_le within),
    Option.map_some] at states
  obtain ⟨state, found, same⟩ := Option.map_eq_some_iff.mp states
  obtain ⟨_, locations⟩ := Prod.mk.inj same
  simp only [locationAt, found, Option.bind_some, locations, List.getElem?_map,
    List.getElem?_range known, Option.map_some]

theorem forall_iff (follows : trace.Follows count bound place)
    (holds : Nat → ProcessLocation → Prop) :
    (∀ state ∈ trace.states, ∀ spot ∈ state.locations, holds state.timestep spot) ↔
      ∀ timestep ≤ bound, ∀ process < count, holds timestep ⟨process, place timestep process⟩ := by
  have pairs : (∀ state ∈ trace.states, ∀ spot ∈ state.locations, holds state.timestep spot) ↔
      ∀ pair ∈ trace.states.map (fun state => (state.timestep, state.locations)),
        ∀ spot ∈ pair.2, holds pair.1 spot := by
    rw [List.forall_mem_map]
  rw [pairs, follows]
  simp only [List.forall_mem_map, List.mem_range, Nat.lt_succ_iff]

theorem iff_forall_eq (follows : trace.Follows count bound place) :
    trace.Follows count bound other ↔
      ∀ timestep ≤ bound, ∀ process < count, place timestep process = other timestep process := by
  unfold Follows at follows ⊢
  rw [follows]
  simp only [List.map_inj_left, List.mem_range, Nat.lt_succ_iff, Prod.mk.injEq, true_and,
    ProcessLocation.mk.injEq]

theorem formula_ok (follows : trace.Follows count bound place)
    (known : count ≤ program.processes.length) :
    trace.formula program = .ok (Formula.conj (trace.parts program)) := by
  refine formula_ok_iff.mpr ⟨?_, rfl⟩
  refine (follows.forall_iff fun _ spot => spot.process < _).mpr ?_
  intro timestep _ process inCount
  exact Nat.lt_of_lt_of_le inCount known

theorem lt_of_formula (follows : trace.Follows count bound place)
    (encoded : trace.formula program = .ok formula) {process : Nat} (known : process < count) :
    process < program.processes.length := by
  have all := (follows.forall_iff fun _ spot => spot.process < _).mp (formula_ok_iff.mp encoded).1
  exact all 0 (Nat.zero_le bound) process known

theorem eval_formula_iff (follows : trace.Follows count bound place)
    (encoded : trace.formula program = .ok formula) {assignment : Assignment} :
    formula.eval assignment = true ↔
      ∀ timestep ≤ bound, ∀ process < count, ∀ digit < program.digits process,
        assignment.read (Atom.location timestep process digit).name =
          (place timestep process).testBit (program.digits process - 1 - digit) := by
  rw [Trace.eval_formula_iff encoded]
  exact follows.forall_iff fun timestep spot => ∀ digit < program.digits spot.process,
    assignment.read (Atom.location timestep spot.process digit).name =
      spot.location.testBit (program.digits spot.process - 1 - digit)

end Follows

end Trace

namespace Model

variable {first second model : Model} {program encoder : Program} {property : Property}
  {bound : Nat} {trace : Trace} {formula : Formula}

theorem follows_of_decode (decoded : model.decode program property bound = .ok trace) :
    trace.Follows program.processes.length bound (model.locationOf program) := by
  rw [decode_eq] at decoded
  cases decoded
  unfold Trace.Follows
  rw [List.map_map]
  rfl

theorem locationAt_decoded (decoded : model.decode program property bound = .ok trace)
    {timestep process : Nat} (within : timestep ≤ bound)
    (known : process < program.processes.length) :
    trace.locationAt timestep process = some (model.locationOf program timestep process) :=
  (follows_of_decode decoded).locationAt_eq within known

theorem locationOf_congr {timestep process : Nat}
    (sameDigits : encoder.digits process = program.digits process) :
    model.locationOf encoder timestep process = model.locationOf program timestep process := by
  unfold locationOf digitsOf
  rw [sameDigits]

theorem locationOf_eq_mod_iff {timestep process location : Nat} :
    model.locationOf program timestep process = location % 2 ^ program.digits process ↔
      ∀ digit < program.digits process,
        model.reading.read (Atom.location timestep process digit).name =
          location.testBit (program.digits process - 1 - digit) := by
  rw [Location.eq_mod_iff (model.locationOf_lt program timestep process)]
  constructor
  · intro bits digit within
    rw [← bits digit within, testBit_locationOf model program within]
  · intro digits digit within
    rw [← digits digit within, testBit_locationOf model program within]

/-- A model satisfies the formula of another model's trace exactly if it is at the same locations. The
formula may be made with other digits, as long as there are as many. -/
theorem eval_formula_iff_locationOf_eq (decoded : first.decode program property bound = .ok trace)
    (encoded : trace.formula encoder = .ok formula)
    (sameDigits : ∀ process < program.processes.length,
      encoder.digits process = program.digits process) :
    formula.eval second.reading = true ↔
      ∀ timestep ≤ bound, ∀ process < program.processes.length,
        second.locationOf program timestep process = first.locationOf program timestep process := by
  rw [(follows_of_decode decoded).eval_formula_iff encoded]
  refine forall₂_congr fun timestep _ => forall₂_congr fun process known => ?_
  have small := first.locationOf_lt program timestep process
  rw [sameDigits process known, ← locationOf_eq_mod_iff, Nat.mod_eq_of_lt small]

theorem exists_locationOf_ne (decoded : first.decode program property bound = .ok trace)
    (encoded : trace.formula encoder = .ok formula)
    (sameDigits : ∀ process < program.processes.length,
      encoder.digits process = program.digits process)
    (off : formula.eval second.reading = false) :
    ∃ timestep ≤ bound, ∃ process < program.processes.length,
      first.locationOf program timestep process ≠ second.locationOf program timestep process := by
  apply Classical.byContradiction
  intro absent
  have on : formula.eval second.reading = true := by
    rw [eval_formula_iff_locationOf_eq decoded encoded sameDigits]
    intro timestep within process known
    apply Decidable.byContradiction
    intro different
    exact absent ⟨timestep, within, process, known, Ne.symm different⟩
  rw [off] at on
  cases on

/-- Two traces whose formulas hold of one assignment are at the same locations as long as both last. -/
theorem locationOf_eq_of_eval {later : Nat} {otherTrace : Trace} {otherFormula : Formula}
    (decoded : first.decode program property bound = .ok trace)
    (otherDecoded : second.decode program property later = .ok otherTrace)
    (encoded : trace.formula encoder = .ok formula)
    (otherEncoded : otherTrace.formula encoder = .ok otherFormula)
    (sameDigits : ∀ process < program.processes.length,
      encoder.digits process = program.digits process)
    {assignment : Assignment} (holds : formula.eval assignment = true)
    (otherHolds : otherFormula.eval assignment = true) {timestep process : Nat}
    (within : timestep ≤ bound) (otherWithin : timestep ≤ later)
    (known : process < program.processes.length) :
    first.locationOf program timestep process = second.locationOf program timestep process := by
  have bits := ((follows_of_decode decoded).eval_formula_iff encoded).mp holds
    timestep within process known
  have otherBits := ((follows_of_decode otherDecoded).eval_formula_iff otherEncoded).mp otherHolds
    timestep otherWithin process known
  rw [sameDigits process known] at bits otherBits
  rw [← Nat.mod_eq_of_lt (second.locationOf_lt program timestep process),
    Location.eq_mod_iff (first.locationOf_lt program timestep process)]
  intro digit inside
  rw [← bits digit inside, otherBits digit inside]

theorem exists_formula_of_decode (decoded : model.decode program property bound = .ok trace) :
    ∃ formula, trace.formula program = .ok formula ∧ formula.eval model.reading = true := by
  have encoded := (follows_of_decode decoded).formula_ok (Nat.le_refl _)
  refine ⟨_, encoded, ?_⟩
  rw [eval_formula_iff_locationOf_eq decoded encoded fun _ _ => rfl]
  intro timestep _ process _
  rfl

end Model

end Trivalent
