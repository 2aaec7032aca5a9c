import Mathlib.Data.List.Nodup
import Trivalent.Proofs.Atom.Names
import Trivalent.Proofs.Trace.RoundTrip

/-!
What one literal of a model can change in its trace. Every component of a state is read from atoms of
its own, and different atoms have different names, so a literal that is added to a model changes at
most the component that its atom names (`decode_changes_named`).
-/

set_option autoImplicit false

namespace Trivalent

/-! ### Changes of a trace -/

attribute [ext] State

/-- The table gives this id to the name. -/
def PredicateTable.HasId (table : PredicateTable) (name : String) (id : Nat) : Prop :=
  ∃ entry ∈ table.entries, entry.1 = name ∧ entry.2.toNat = id

instance (table : PredicateTable) (name : String) (id : Nat) : Decidable (table.HasId name id) :=
  inferInstanceAs (Decidable (∃ entry ∈ table.entries, entry.1 = name ∧ entry.2.toNat = id))

theorem PredicateTable.hasId_iff_of_mem {table : PredicateTable} {entry : String × UInt64}
    (member : entry ∈ table.entries) (id : Nat) :
    table.HasId entry.1 id ↔ entry.2.toNat = id := by
  constructor
  · rintro ⟨other, found, sameName, sameId⟩
    have same : other = entry := List.inj_on_of_nodup_map table.distinct found member sameName
    rw [← same]
    exact sameId
  · intro sameId
    exact ⟨entry, member, rfl, sameId⟩

def Fairness.process? : Fairness → Option Nat
  | .notApplicable => none
  | .fair process => some process
  | .unfair process => some process

namespace State

/-- The state with a process at another location. -/
def moved (process location : Nat) (state : State) : State :=
  { state with
    locations := state.locations.map fun place =>
      if place.process = process then { place with location } else place }

/-- The state with another value for the predicates of an id. -/
def revalued (table : PredicateTable) (id : Nat) (value : Truth) (state : State) : State :=
  { state with
    predicates := state.predicates.map fun status =>
      if table.HasId status.name id then { status with value } else status }

/-- The state with another fairness entry for a process. -/
def judged (process : Nat) (entry : Fairness) (state : State) : State :=
  { state with
    fairness := state.fairness.map fun old => if old.process? = some process then entry else old }

/-- The state with another value of a resource flag. -/
def flagged (flag : ResourceFlag) (value : Bool) (state : State) : State :=
  { state with
    resources :=
      match flag with
      | .re => { state.resources with re := value }
      | .rd => { state.resources with rd := value } }

end State

namespace Trace

/-- The trace with a change of the state at a timestep. -/
def changed (timestep : Nat) (change : State → State) (trace : Trace) : Trace :=
  ⟨trace.states.map fun state => if state.timestep = timestep then change state else state⟩

/-- Two traces differ at most in the component that an atom names, and not at all without an atom. -/
def DiffersAt (program : Program) (property : Property) (before after : Trace) :
    Option Atom → Prop
  | none => after = before
  | some .status => after = before
  | some (.location timestep process _) =>
      ∃ location, after = before.changed timestep (.moved process location)
  | some (.predicate id timestep _) =>
      ∃ value, after = before.changed timestep (.revalued program.predicates id value)
  | some (.fairness timestep process) =>
      if property.fairness then ∃ entry, after = before.changed timestep (.judged process entry)
      else after = before
  | some (.resource flag timestep) =>
      ∃ value, after = before.changed timestep (.flagged flag value)

end Trace

/-- The timestep of the state that an atom belongs to. -/
def Atom.timestep? : Atom → Option Nat
  | .location timestep _ _ => some timestep
  | .predicate _ timestep _ => some timestep
  | .fairness timestep _ => some timestep
  | .resource _ timestep => some timestep
  | .status => none

/-! ### Reading a model with one more literal -/

namespace Model

variable {model : Model} {literal : Literal} {program : Program} {property : Property}

theorem contains_insert_of_ne {atom : Atom} (words : atom.InWords)
    (other : Atom.parse? literal.name ≠ some atom) (polarity : Bool) :
    (model.insert literal).contains atom.name polarity = model.contains atom.name polarity := by
  have different : (⟨atom.name, polarity⟩ : Literal) ≠ literal := by
    rintro rfl
    exact other (Atom.parse?_name words)
  rw [Bool.eq_iff_iff, contains_insert]
  exact or_iff_right different

/-- The value of the predicates with an id. -/
def truthOf (model : Model) (id timestep : Nat) : Truth :=
  if model.isTrue (Atom.predicate id timestep .unknown).name then .unknown
  else if model.isTrue (Atom.predicate id timestep .holds).name then .yes
  else .no

theorem decodePredicate_eq (model : Model) (timestep : Nat) (entry : String × UInt64) :
    model.decodePredicate timestep entry = ⟨entry.1, model.truthOf entry.2.toNat timestep⟩ :=
  rfl

def fairnessOf (model : Model) (timestep process : Nat) : Fairness :=
  if model.isTrue (Atom.fairness timestep process).name then .fair process else .unfair process

theorem decodeFairness_eq (fair : property.fairness = true) (model : Model) (timestep : Nat) :
    model.decodeFairness program property timestep =
      (List.range program.processes.length).map (model.fairnessOf timestep) :=
  if_pos fair

theorem process?_fairnessOf (model : Model) (timestep process : Nat) :
    (model.fairnessOf timestep process).process? = some process := by
  unfold fairnessOf
  split
  · rfl
  · rfl

section Insertion

variable {timestep : Nat} (small : timestep < wordLimit)

include small

theorem locationOf_insert {process : Nat} (known : process < wordLimit)
    (other : ∀ digit, Atom.parse? literal.name ≠ some (.location timestep process digit)) :
    (model.insert literal).locationOf program timestep process =
      model.locationOf program timestep process := by
  unfold locationOf digitsOf
  refine congrArg Location.ofDigits (List.map_congr_left fun digit member => ?_)
  have few : digit < 64 := Nat.lt_of_lt_of_le (List.mem_range.mp member) (program.digits_le process)
  have words : (Atom.location timestep process digit).InWords :=
    ⟨small, known, Nat.lt_trans few (by decide)⟩
  rw [read_reading, read_reading, isFalse, isFalse, contains_insert_of_ne words (other digit)]

theorem truthOf_insert {id : Nat} (word : id < wordLimit)
    (other : ∀ aspect, Atom.parse? literal.name ≠ some (.predicate id timestep aspect)) :
    (model.insert literal).truthOf id timestep = model.truthOf id timestep := by
  have words (aspect : PredicateAspect) : (Atom.predicate id timestep aspect).InWords :=
    ⟨word, small⟩
  unfold truthOf isTrue
  rw [contains_insert_of_ne (words .unknown) (other .unknown),
    contains_insert_of_ne (words .holds) (other .holds)]

theorem fairnessOf_insert {process : Nat} (known : process < wordLimit)
    (other : Atom.parse? literal.name ≠ some (.fairness timestep process)) :
    (model.insert literal).fairnessOf timestep process = model.fairnessOf timestep process := by
  have words : (Atom.fairness timestep process).InWords := ⟨small, known⟩
  unfold fairnessOf isTrue
  rw [contains_insert_of_ne words other]

theorem resource_insert {flag : ResourceFlag}
    (other : Atom.parse? literal.name ≠ some (.resource flag timestep)) :
    (model.insert literal).isTrue (Atom.resource flag timestep).name =
      model.isTrue (Atom.resource flag timestep).name := by
  have words : (Atom.resource flag timestep).InWords := small
  exact contains_insert_of_ne words other true

/-! ### Components of a state -/

theorem locations_insert (few : program.processes.length ≤ wordLimit)
    (other : ∀ process digit, Atom.parse? literal.name ≠ some (.location timestep process digit)) :
    ((model.insert literal).stateOf program property timestep).locations =
      (model.stateOf program property timestep).locations := by
  refine List.map_congr_left fun process member => ?_
  have known := Nat.lt_of_lt_of_le (List.mem_range.mp member) few
  rw [locationOf_insert small known (other process)]

theorem predicates_insert
    (other : ∀ id aspect, Atom.parse? literal.name ≠ some (.predicate id timestep aspect)) :
    ((model.insert literal).stateOf program property timestep).predicates =
      (model.stateOf program property timestep).predicates := by
  refine List.map_congr_left fun entry _ => ?_
  rw [decodePredicate_eq, decodePredicate_eq,
    truthOf_insert small (UInt64.toNat_lt entry.2) (other _)]

theorem fairness_insert (few : program.processes.length ≤ wordLimit)
    (other : ∀ process, Atom.parse? literal.name ≠ some (.fairness timestep process)) :
    ((model.insert literal).stateOf program property timestep).fairness =
      (model.stateOf program property timestep).fairness := by
  simp only [stateOf, decodeFairness]
  split
  · refine List.map_congr_left fun process member => ?_
    have known := Nat.lt_of_lt_of_le (List.mem_range.mp member) few
    exact fairnessOf_insert small known (other process)
  · rfl

theorem resources_insert
    (other : ∀ flag, Atom.parse? literal.name ≠ some (.resource flag timestep)) :
    ((model.insert literal).stateOf program property timestep).resources =
      (model.stateOf program property timestep).resources := by
  simp only [stateOf, decodeResources, resource_insert small (other _)]

/-! ### States -/

theorem stateOf_insert_of_ne (few : program.processes.length ≤ wordLimit)
    (elsewhere : ∀ atom, Atom.parse? literal.name = some atom → atom.timestep? ≠ some timestep) :
    (model.insert literal).stateOf program property timestep =
      model.stateOf program property timestep := by
  apply State.ext
  · rfl
  · exact locations_insert small few fun _ _ parsed => elsewhere _ parsed rfl
  · exact predicates_insert small fun _ _ parsed => elsewhere _ parsed rfl
  · exact fairness_insert small few fun _ parsed => elsewhere _ parsed rfl
  · exact resources_insert small fun _ parsed => elsewhere _ parsed rfl

theorem stateOf_insert_location (few : program.processes.length ≤ wordLimit) {process digit : Nat}
    (parsed : Atom.parse? literal.name = some (.location timestep process digit)) :
    ∃ location, (model.insert literal).stateOf program property timestep =
      (model.stateOf program property timestep).moved process location := by
  refine ⟨(model.insert literal).locationOf program timestep process, ?_⟩
  apply State.ext
  · rfl
  · simp only [stateOf, State.moved, List.map_map]
    refine List.map_congr_left fun index member => ?_
    simp only [Function.comp_apply]
    by_cases same : index = process
    · rw [if_pos same, same]
    · have known := Nat.lt_of_lt_of_le (List.mem_range.mp member) few
      rw [if_neg same, locationOf_insert small known]
      rw [parsed]
      rintro _ ⟨⟩
      exact same rfl
  · exact predicates_insert small (by rw [parsed]; nofun)
  · exact fairness_insert small few (by rw [parsed]; nofun)
  · exact resources_insert small (by rw [parsed]; nofun)

theorem stateOf_insert_predicate (few : program.processes.length ≤ wordLimit) {id : Nat}
    {aspect : PredicateAspect}
    (parsed : Atom.parse? literal.name = some (.predicate id timestep aspect)) :
    ∃ value, (model.insert literal).stateOf program property timestep =
      (model.stateOf program property timestep).revalued program.predicates id value := by
  refine ⟨(model.insert literal).truthOf id timestep, ?_⟩
  apply State.ext
  · rfl
  · exact locations_insert small few (by rw [parsed]; nofun)
  · simp only [stateOf, State.revalued, List.map_map]
    refine List.map_congr_left fun entry member => ?_
    simp only [Function.comp_apply, decodePredicate_eq, PredicateTable.hasId_iff_of_mem member]
    by_cases same : entry.2.toNat = id
    · rw [if_pos same, same]
    · rw [if_neg same, truthOf_insert small (UInt64.toNat_lt entry.2)]
      rw [parsed]
      rintro _ ⟨⟩
      exact same rfl
  · exact fairness_insert small few (by rw [parsed]; nofun)
  · exact resources_insert small (by rw [parsed]; nofun)

theorem stateOf_insert_fairness (few : program.processes.length ≤ wordLimit) {process : Nat}
    (parsed : Atom.parse? literal.name = some (.fairness timestep process))
    (fair : property.fairness = true) :
    ∃ entry, (model.insert literal).stateOf program property timestep =
      (model.stateOf program property timestep).judged process entry := by
  refine ⟨(model.insert literal).fairnessOf timestep process, ?_⟩
  apply State.ext
  · rfl
  · exact locations_insert small few (by rw [parsed]; nofun)
  · exact predicates_insert small (by rw [parsed]; nofun)
  · simp only [stateOf, State.judged, decodeFairness_eq fair, List.map_map]
    refine List.map_congr_left fun index member => ?_
    simp only [Function.comp_apply, process?_fairnessOf, Option.some.injEq]
    by_cases same : index = process
    · rw [if_pos same, same]
    · have known := Nat.lt_of_lt_of_le (List.mem_range.mp member) few
      rw [if_neg same, fairnessOf_insert small known]
      rw [parsed]
      rintro ⟨⟩
      exact same rfl
  · exact resources_insert small (by rw [parsed]; nofun)

/-- Without fairness a literal about it changes nothing, whatever its timestep. -/
theorem stateOf_insert_unfair (few : program.processes.length ≤ wordLimit) {step process : Nat}
    (parsed : Atom.parse? literal.name = some (.fairness step process))
    (unfair : property.fairness = false) :
    (model.insert literal).stateOf program property timestep =
      model.stateOf program property timestep := by
  apply State.ext
  · rfl
  · exact locations_insert small few (by rw [parsed]; nofun)
  · exact predicates_insert small (by rw [parsed]; nofun)
  · simp only [stateOf, decodeFairness, unfair, Bool.false_eq_true, if_false]
  · exact resources_insert small (by rw [parsed]; nofun)

theorem stateOf_insert_resource (few : program.processes.length ≤ wordLimit) {flag : ResourceFlag}
    (parsed : Atom.parse? literal.name = some (.resource flag timestep)) :
    ∃ value, (model.insert literal).stateOf program property timestep =
      (model.stateOf program property timestep).flagged flag value := by
  refine ⟨(model.insert literal).isTrue (Atom.resource flag timestep).name, ?_⟩
  apply State.ext
  · rfl
  · exact locations_insert small few (by rw [parsed]; nofun)
  · exact predicates_insert small (by rw [parsed]; nofun)
  · exact fairness_insert small few (by rw [parsed]; nofun)
  · cases flag with
    | re =>
        have kept : (model.insert literal).isTrue (Atom.resource .rd timestep).name =
            model.isTrue (Atom.resource .rd timestep).name :=
          resource_insert small (by rw [parsed]; nofun)
        simp only [stateOf, State.flagged, decodeResources, kept]
    | rd =>
        have kept : (model.insert literal).isTrue (Atom.resource .re timestep).name =
            model.isTrue (Atom.resource .re timestep).name :=
          resource_insert small (by rw [parsed]; nofun)
        simp only [stateOf, State.flagged, decodeResources, kept]

end Insertion

/-! ### Traces -/

section Traces

variable {bound : Nat}

/-- The trace that a model is read as. -/
def traceOf (model : Model) (program : Program) (property : Property) (bound : Nat) : Trace :=
  ⟨(List.range (bound + 1)).map (model.stateOf program property)⟩

theorem traceOf_insert_eq
    (kept : ∀ timestep ≤ bound, (model.insert literal).stateOf program property timestep =
      model.stateOf program property timestep) :
    (model.insert literal).traceOf program property bound = model.traceOf program property bound := by
  refine congrArg Trace.mk (List.map_congr_left fun timestep member => ?_)
  exact kept timestep (Nat.le_of_lt_succ (List.mem_range.mp member))

theorem traceOf_insert_changed (bounded : bound < wordLimit)
    (few : program.processes.length ≤ wordLimit) {atom : Atom}
    (parsed : Atom.parse? literal.name = some atom) {timestep : Nat}
    (place : atom.timestep? = some timestep) {change : State → State}
    (here : (model.insert literal).stateOf program property timestep =
      change (model.stateOf program property timestep)) :
    (model.insert literal).traceOf program property bound =
      (model.traceOf program property bound).changed timestep change := by
  unfold traceOf Trace.changed
  simp only [List.map_map]
  refine congrArg Trace.mk (List.map_congr_left fun other member => ?_)
  have stamped : (model.stateOf program property other).timestep = other := rfl
  simp only [Function.comp_apply, stamped]
  by_cases same : other = timestep
  · rw [if_pos same, same, here]
  · have small := Nat.lt_of_lt_of_le (List.mem_range.mp member) bounded
    rw [if_neg same, stateOf_insert_of_ne small few]
    intro found sought standing
    rw [parsed] at sought
    cases sought
    exact same (Option.some.inj (standing.symm.trans place))

end Traces

/-- Reading a trace never fails, and one more literal changes at most what its atom names. Timesteps and
processes are counted in words. -/
theorem decode_changes_named (program : Program) (property : Property) {bound : Nat}
    (bounded : bound < wordLimit) (few : program.processes.length ≤ wordLimit) (model : Model)
    (literal : Literal) :
    ∃ before after, model.decode program property bound = .ok before ∧
      (model.insert literal).decode program property bound = .ok after ∧
      before.DiffersAt program property after (Atom.parse? literal.name) := by
  refine ⟨_, _, model.decode_eq program property bound,
    (model.insert literal).decode_eq program property bound, ?_⟩
  have word {timestep : Nat} (within : timestep ≤ bound) : timestep < wordLimit :=
    Nat.lt_of_le_of_lt within bounded
  cases parsed : Atom.parse? literal.name with
  | none =>
      refine traceOf_insert_eq fun timestep within => stateOf_insert_of_ne (word within) few ?_
      intro atom found
      rw [parsed] at found
      cases found
  | some atom =>
      have words := (Atom.eq_name_of_parse? parsed).2
      cases atom with
      | status =>
          refine traceOf_insert_eq fun timestep within => stateOf_insert_of_ne (word within) few ?_
          intro atom found
          rw [parsed] at found
          cases found
          nofun
      | location timestep process digit =>
          obtain ⟨location, here⟩ := stateOf_insert_location words.1 few parsed
          exact ⟨location, traceOf_insert_changed bounded few parsed rfl here⟩
      | predicate id timestep aspect =>
          obtain ⟨value, here⟩ := stateOf_insert_predicate words.2 few parsed
          exact ⟨value, traceOf_insert_changed bounded few parsed rfl here⟩
      | resource flag timestep =>
          obtain ⟨value, here⟩ := stateOf_insert_resource words few parsed
          exact ⟨value, traceOf_insert_changed bounded few parsed rfl here⟩
      | fairness timestep process =>
          simp only [Trace.DiffersAt]
          split
          · rename_i fair
            obtain ⟨entry, here⟩ := stateOf_insert_fairness words.1 few parsed fair
            exact ⟨entry, traceOf_insert_changed bounded few parsed rfl here⟩
          · rename_i unfair
            exact traceOf_insert_eq fun timestep within =>
              stateOf_insert_unfair (word within) few parsed (Bool.eq_false_iff.mpr unfair)

/-- The third process leaves the location that it has without the literal. -/
theorem decode_changes_named_trio :
    ∃ before after location, Model.empty.decode .trio {} 1 = .ok before ∧
      (Model.empty.insert ⟨"n_1_2_0", false⟩).decode .trio {} 1 = .ok after ∧ after ≠ before ∧
      after = before.changed 1 (.moved 2 location) := by
  have parsed : Atom.parse? "n_1_2_0" = some (.location 1 2 0) := by decide +kernel
  have moves : (Model.empty.decode .trio {} 1).toOption ≠
      ((Model.empty.insert ⟨"n_1_2_0", false⟩).decode .trio {} 1).toOption := by decide +kernel
  obtain ⟨before, after, read, readAgain, differs⟩ := decode_changes_named .trio {}
    (show 1 < wordLimit by decide) (by decide) Model.empty ⟨"n_1_2_0", false⟩
  rw [parsed] at differs
  obtain ⟨location, changed⟩ := differs
  refine ⟨before, after, location, read, readAgain, ?_, changed⟩
  intro same
  rw [read, readAgain, same] at moves
  exact moves rfl

end Model

end Trivalent
