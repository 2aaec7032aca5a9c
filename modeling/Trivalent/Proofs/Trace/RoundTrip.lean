import Mathlib.Algebra.Group.Nat.Defs
import Trivalent.Proofs.Atom.Names
import Trivalent.Proofs.Trace.Decoding

/-!
The formula of a trace and the trace of a model are inverse to each other. An assignment satisfies the
formula exactly if its digits spell the locations of the trace, and the literals of the formula are a
model that is at these locations. A model satisfies the formula of its own trace only if it decides
every digit of it.
-/

set_option autoImplicit false

namespace Trivalent

/-! ### A literal for every digit -/

namespace Program

variable (program : Program) (bound : Nat) (bit : Nat → Nat → Nat → Bool)

def digitLiterals : List Literal :=
  (List.range (bound + 1)).flatMap fun timestep =>
    (List.range program.processes.length).flatMap fun process =>
      (List.range (program.digits process)).map fun digit =>
        (Atom.location timestep process digit).literal (bit timestep process digit)

def digitModel : Model := .ofList (program.digitLiterals bound bit)

variable {program bound bit}

theorem mem_digitLiterals {literal : Literal} :
    literal ∈ program.digitLiterals bound bit ↔
      ∃ timestep ≤ bound, ∃ process < program.processes.length,
        ∃ digit < program.digits process,
          (Atom.location timestep process digit).literal (bit timestep process digit) = literal := by
  simp only [digitLiterals, List.mem_flatMap, List.mem_map, List.mem_range, Nat.lt_succ_iff]

variable {timestep process digit : Nat}

theorem contains_digitModel (within : timestep ≤ bound) (known : process < program.processes.length)
    (inDigits : digit < program.digits process) {polarity : Bool} :
    (program.digitModel bound bit).contains (Atom.location timestep process digit).name polarity =
      true ↔ bit timestep process digit = polarity := by
  rw [digitModel, Model.contains_ofList, mem_digitLiterals]
  constructor
  · rintro ⟨timestep', _, process', _, digit', _, same⟩
    obtain ⟨names, signs⟩ := Literal.mk.inj same
    -- no other digit has this name, so the sign is this digit's own
    obtain ⟨rfl, rfl, rfl⟩ := Atom.location_name_inj.mp names
    exact signs
  · intro sign
    refine ⟨timestep, within, process, known, digit, inDigits, ?_⟩
    rw [sign]
    rfl

theorem not_both_digitModel (name : String) :
    ¬((program.digitModel bound bit).isTrue name = true ∧
      (program.digitModel bound bit).isFalse name = true) := by
  rintro ⟨positive, negative⟩
  have held := positive
  unfold Model.isTrue digitModel at held
  rw [Model.contains_ofList, mem_digitLiterals] at held
  obtain ⟨timestep, within, process, known, digit, inDigits, same⟩ := held
  obtain ⟨rfl, _⟩ := Literal.mk.inj same
  have isOne := (contains_digitModel within known inDigits).mp positive
  have isZero := (contains_digitModel within known inDigits).mp negative
  rw [isOne] at isZero
  cases isZero

theorem read_digitModel (within : timestep ≤ bound) (known : process < program.processes.length)
    (inDigits : digit < program.digits process) :
    (program.digitModel bound bit).reading.read (Atom.location timestep process digit).name =
      bit timestep process digit := by
  have zero : (program.digitModel bound bit).isFalse (Atom.location timestep process digit).name =
      true ↔ bit timestep process digit = false := contains_digitModel within known inDigits
  rw [Model.read_reading]
  cases value : bit timestep process digit with
  | false => rw [zero.mpr value, Bool.not_true]
  | true =>
      rw [Bool.not_eq_true', ← Bool.not_eq_true, zero, value]
      decide

theorem decode_digitModel_iff {property : Property} {place : Nat → Nat → Nat} :
    (∃ decoded, (program.digitModel bound bit).decode program property bound = .ok decoded ∧
      decoded.Follows program.processes.length bound fun timestep process =>
        place timestep process % 2 ^ program.digits process) ↔
      ∀ timestep ≤ bound, ∀ process < program.processes.length,
        ∀ digit < program.digits process, bit timestep process digit =
          (place timestep process).testBit (program.digits process - 1 - digit) := by
  have decoded := (program.digitModel bound bit).decode_eq program property bound
  have each : (∀ timestep ≤ bound, ∀ process < program.processes.length,
      (program.digitModel bound bit).locationOf program timestep process =
        place timestep process % 2 ^ program.digits process) ↔
      ∀ timestep ≤ bound, ∀ process < program.processes.length,
        ∀ digit < program.digits process, bit timestep process digit =
          (place timestep process).testBit (program.digits process - 1 - digit) := by
    refine forall₂_congr fun timestep within => forall₂_congr fun process known => ?_
    rw [Model.locationOf_eq_mod_iff]
    refine forall₂_congr fun digit inDigits => ?_
    rw [read_digitModel within known inDigits]
  rw [← each, ← (Model.follows_of_decode decoded).iff_forall_eq]
  constructor
  · rintro ⟨other, same, follows⟩
    rw [decoded] at same
    cases same
    exact follows
  · intro follows
    exact ⟨_, decoded, follows⟩

end Program

/-- The model that holds every location digit up to the bound with the sign it has in the assignment. -/
def Assignment.digitModel (assignment : Assignment) (program : Program) (bound : Nat) : Model :=
  program.digitModel bound fun timestep process digit =>
    assignment.read (Atom.location timestep process digit).name

/-! ### The formula of a trace -/

namespace Trace

variable {trace : Trace} {program : Program} {bound : Nat} {place : Nat → Nat → Nat}

theorem Follows.parts_eq {count : Nat} (follows : trace.Follows count bound place) :
    trace.parts program = (List.range (bound + 1)).flatMap fun timestep =>
      (List.range count).map fun process =>
        Location.encode timestep process (place timestep process) (program.digits process) := by
  have pairs : trace.parts program =
      (trace.states.map fun state => (state.timestep, state.locations)).flatMap fun pair =>
        pair.2.map fun spot =>
          Location.encode pair.1 spot.process spot.location (program.digits spot.process) := by
    rw [parts, List.flatMap_map, List.flatMap_def]
  rw [pairs, follows, List.flatMap_map]
  simp only [List.map_map, Function.comp_def]

theorem Follows.literals_eq (follows : trace.Follows program.processes.length bound place) :
    (Formula.conj (trace.parts program)).literals =
      program.digitLiterals bound fun timestep process digit =>
        (place timestep process).testBit (program.digits process - 1 - digit) := by
  have digits : ∀ timestep process location count,
      (Location.encode timestep process location count).literals =
        (List.range count).map fun digit =>
          (Atom.location timestep process digit).literal (location.testBit (count - 1 - digit)) := by
    intro timestep process location count
    rw [Location.encode, Formula.literals_conj, List.flatMap_map]
    exact List.map_eq_flatMap.symm
  rw [Formula.literals_conj, follows.parts_eq, List.flatMap_assoc, Program.digitLiterals]
  simp only [List.flatMap_map, digits]

/-- A trace that lists every process at every timestep has a formula. An assignment satisfies it exactly
if the model of its digits is at the locations of the trace, as far as the digits go; and the literals
of the formula are a model without contradiction, at the very locations if the digits suffice. -/
theorem formula_inverts_decode (program : Program) (property : Property) {bound : Nat}
    {trace : Trace} {place : Nat → Nat → Nat}
    (follows : trace.Follows program.processes.length bound place) :
    ∃ formula, trace.formula program = .ok formula ∧
      (∀ assignment : Assignment, formula.eval assignment = true ↔
        ∃ decoded, (assignment.digitModel program bound).decode program property bound =
            .ok decoded ∧
          decoded.Follows program.processes.length bound fun timestep process =>
            place timestep process % 2 ^ program.digits process) ∧
      (∀ name, ¬((Model.ofList formula.literals).isTrue name = true ∧
        (Model.ofList formula.literals).isFalse name = true)) ∧
      ((∀ timestep ≤ bound, ∀ process < program.processes.length,
          place timestep process < 2 ^ program.digits process) →
        ∃ decoded, (Model.ofList formula.literals).decode program property bound = .ok decoded ∧
          decoded.Follows program.processes.length bound place) := by
  have encoded := follows.formula_ok (Nat.le_refl program.processes.length)
  have literals := congrArg Model.ofList follows.literals_eq
  refine ⟨_, encoded, ?_, ?_, ?_⟩
  · intro assignment
    rw [follows.eval_formula_iff encoded]
    exact Program.decode_digitModel_iff.symm
  · rw [literals]
    exact Program.not_both_digitModel
  · intro small
    rw [literals]
    obtain ⟨decoded, read, reduced⟩ := Program.decode_digitModel_iff.mpr
      fun timestep _ process _ digit _ => rfl
    refine ⟨decoded, read, reduced.iff_forall_eq.mpr ?_⟩
    intro timestep within process known
    exact Nat.mod_eq_of_lt (small timestep within process known)

end Trace

/-- Three processes with three digits, none and one. -/
def Program.trio : Program := { processes := [⟨"P0", 5⟩, ⟨"P1", 1⟩, ⟨"P2", 2⟩] }

/-- The first process goes on to a location that it has digits for, but that is not one of its own. -/
def Trace.ofTrio : Trace :=
  ⟨[{ timestep := 0, locations := [⟨0, 4⟩, ⟨1, 0⟩, ⟨2, 1⟩] },
    { timestep := 1, locations := [⟨0, 6⟩, ⟨1, 0⟩, ⟨2, 0⟩] }]⟩

theorem Trace.formula_inverts_decode_trio :
    ∃ formula, Trace.ofTrio.formula .trio = .ok formula ∧
      (∀ assignment : Assignment, formula.eval assignment = true ↔
        ∃ decoded, (assignment.digitModel .trio 1).decode .trio {} 1 = .ok decoded ∧
          decoded.Follows 3 1 fun timestep process =>
            [4 + 2 * timestep, 0, 1 - timestep].getD process 0 % 2 ^ Program.trio.digits process) ∧
      (∀ name, ¬((Model.ofList formula.literals).isTrue name = true ∧
        (Model.ofList formula.literals).isFalse name = true)) ∧
      ∃ decoded, (Model.ofList formula.literals).decode .trio {} 1 = .ok decoded ∧
        decoded.Follows 3 1 fun timestep process =>
          [4 + 2 * timestep, 0, 1 - timestep].getD process 0 := by
  have follows : Trace.ofTrio.Follows Program.trio.processes.length 1 fun timestep process =>
      [4 + 2 * timestep, 0, 1 - timestep].getD process 0 := rfl
  obtain ⟨formula, encoded, holds, consistent, restored⟩ := formula_inverts_decode .trio {} follows
  exact ⟨formula, encoded, holds, consistent, restored (by decide)⟩

/-! ### A trace in its own model -/

namespace Model

/-- A variable that is missing, or there in both signs, is read as one value for a location and as the
other for a formula. -/
theorem read_value_eq_reading_iff (model : Model) (name : String) :
    model.value.read name = model.reading.read name ↔
      (model.contains name true ^^ model.contains name false) = true := by
  rw [read_value, read_reading, isTrue, isFalse]
  cases model.contains name true <;> cases model.contains name false <;> decide

/-- The trace of a model has a formula, and the model satisfies it exactly if it holds one literal, and
not the other, of every location digit up to the bound. -/
theorem formula_holds_iff_decided (model : Model) (program : Program) (property : Property)
    (bound : Nat) :
    ∃ trace formula, model.decode program property bound = .ok trace ∧
      trace.formula program = .ok formula ∧
      (formula.eval model.value = true ↔
        ∀ timestep ≤ bound, ∀ process < program.processes.length,
          ∀ digit < program.digits process,
            (model.contains (Atom.location timestep process digit).name true ^^
              model.contains (Atom.location timestep process digit).name false) = true) := by
  have decoded := model.decode_eq program property bound
  have follows := follows_of_decode decoded
  have encoded := follows.formula_ok (Nat.le_refl program.processes.length)
  refine ⟨_, _, decoded, encoded, ?_⟩
  rw [follows.eval_formula_iff encoded]
  refine forall₂_congr fun timestep _ => forall₂_congr fun process _ => ?_
  refine forall₂_congr fun digit within => ?_
  rw [testBit_locationOf model program within]
  exact read_value_eq_reading_iff model _

end Model

end Trivalent
