import Trivalent.Proofs.Text.Separator
import Trivalent.Trace.Text

/-!
Traces are printed without loss. Each kind of entry has texts of its own without a comma or a new line
(`PrintedApart`), so that a line of entries in brackets can be read back; the lines of a state follow
each other, and so do the states of a trace. The names of predicates are the one thing in a trace that
could break this, and only by a comma or a new line.
-/

set_option autoImplicit false

namespace Trivalent

open Text

/-! ### Plain texts -/

/-- Neither a comma nor a new line. -/
def IsPlain (chars : List Char) : Prop := ',' ∉ chars ∧ '\n' ∉ chars

instance (chars : List Char) : Decidable (IsPlain chars) :=
  inferInstanceAs (Decidable (',' ∉ chars ∧ '\n' ∉ chars))

theorem isPlain_append {left right : List Char} (leftPlain : IsPlain left)
    (rightPlain : IsPlain right) : IsPlain (left ++ right) := by
  simp only [IsPlain, List.mem_append, not_or]
  exact ⟨⟨leftPlain.1, rightPlain.1⟩, leftPlain.2, rightPlain.2⟩

theorem isPlain_repr (number : Nat) : IsPlain number.repr.toList :=
  ⟨notMem_repr rfl number, notMem_repr rfl number⟩

/-- A process, by its number, and what is said about it behind a blank. -/
def processChars (process : Nat) (rest : List Char) : List Char :=
  'P' :: (process.repr.toList ++ ' ' :: rest)

theorem processChars_inj {left right : Nat} {rest rest' : List Char}
    (same : processChars left rest = processChars right rest') : left = right ∧ rest = rest' := by
  obtain ⟨processes, behind⟩ := numeral_append_inj (stopsAt_cons rfl rest) (stopsAt_cons rfl rest')
    (List.cons.inj same).2
  exact ⟨processes, (List.cons.inj behind).2⟩

theorem isPlain_processChars (process : Nat) {rest : List Char} (plain : IsPlain rest) :
    IsPlain (processChars process rest) := by
  have first : IsPlain ['P'] := by decide
  have blank : IsPlain [' '] := by decide
  exact isPlain_append first (isPlain_append (isPlain_repr process) (isPlain_append blank plain))

/-! ### Entries -/

/-- Entries that can be printed beside each other: no text is empty, the texts of proper entries are
plain, and different entries have different texts. -/
structure PrintedApart {α : Type} (text : α → String) (Proper : α → Prop) : Prop where
  nonempty : ∀ entry, (text entry).toList ≠ []
  plain : ∀ entry, Proper entry → IsPlain (text entry).toList
  injective : Function.Injective text

namespace ProcessLocation

theorem toList_text (place : ProcessLocation) :
    place.text.toList = processChars place.process (['@', ' '] ++ place.location.repr.toList) := by
  simp [text, processChars]

theorem text_injective : Function.Injective text := by
  intro left right same
  have chars := congrArg String.toList same
  rw [toList_text, toList_text] at chars
  obtain ⟨processes, behind⟩ := processChars_inj chars
  have locations := Atom.toList_repr_inj.mp (List.append_cancel_left behind)
  cases left
  cases right
  cases processes
  cases locations
  rfl

theorem printedApart : PrintedApart text fun _ => True where
  nonempty place := by
    rw [toList_text]
    exact List.cons_ne_nil _ _
  plain place _ := by
    rw [toList_text]
    exact isPlain_processChars _ (isPlain_append (by decide) (isPlain_repr _))
  injective := text_injective

end ProcessLocation

namespace Truth

/-- The last three letters of a value tell it from the others. -/
def ending : Truth → List Char
  | .yes => ['r', 'u', 'e']
  | .no => ['l', 's', 'e']
  | .unknown => ['o', 'w', 'n']

theorem ending_injective : Function.Injective ending := by
  intro left right same
  cases left <;> cases right <;> simp [ending] at same ⊢

theorem exists_text (value : Truth) : ∃ start, value.text.toList = start ++ value.ending := by
  cases value with
  | yes => exact ⟨['t'], rfl⟩
  | no => exact ⟨['f', 'a'], rfl⟩
  | unknown => exact ⟨['u', 'n', 'k', 'n'], rfl⟩

end Truth

namespace PredicateStatus

theorem toList_text (status : PredicateStatus) :
    status.text.toList = status.name.toList ++ ([' ', '=', ' '] ++ status.value.text.toList) := by
  simp [text]

/-- The value is read from the end of the text, because the name may itself look like an entry. -/
theorem text_injective : Function.Injective text := by
  intro left right same
  have chars := congrArg String.toList same
  rw [toList_text, toList_text] at chars
  have values : left.value = right.value := by
    obtain ⟨start, leftText⟩ := left.value.exists_text
    obtain ⟨start', rightText⟩ := right.value.exists_text
    rw [leftText, rightText, ← List.append_assoc, ← List.append_assoc, ← List.append_assoc,
      ← List.append_assoc] at chars
    have lengths : left.value.ending.length = right.value.ending.length := by
      cases left.value <;> cases right.value <;> rfl
    exact Truth.ending_injective (List.append_inj' chars lengths).2
  rw [values] at chars
  have names : left.name = right.name := String.toList_inj.mp (List.append_cancel_right chars)
  cases left
  cases right
  cases values
  cases names
  rfl

theorem printedApart : PrintedApart text fun status => IsPlain status.name.toList where
  nonempty status := by
    rw [toList_text]
    exact List.append_ne_nil_of_right_ne_nil _ (List.cons_ne_nil _ _)
  plain status proper := by
    rw [toList_text]
    have value : IsPlain status.value.text.toList := by
      cases status.value <;> decide
    exact isPlain_append proper (isPlain_append (by decide) value)
  injective := text_injective

end PredicateStatus

namespace Fairness

theorem toList_text_fair (process : Nat) :
    (fair process).text.toList = processChars process "= fair".toList := by
  simp [text, processChars]

theorem toList_text_unfair (process : Nat) :
    (unfair process).text.toList = processChars process "= unfair".toList := by
  simp [text, processChars]

theorem text_injective : Function.Injective text := by
  intro left right same
  have chars := congrArg String.toList same
  cases left with
  | notApplicable =>
      cases right with
      | notApplicable => rfl
      | fair other =>
          rw [toList_text_fair] at chars
          cases chars
      | unfair other =>
          rw [toList_text_unfair] at chars
          cases chars
  | fair process =>
      rw [toList_text_fair] at chars
      cases right with
      | notApplicable => cases chars
      | fair other =>
          rw [toList_text_fair] at chars
          rw [(processChars_inj chars).1]
      | unfair other =>
          rw [toList_text_unfair] at chars
          cases (processChars_inj chars).2
  | unfair process =>
      rw [toList_text_unfair] at chars
      cases right with
      | notApplicable => cases chars
      | fair other =>
          rw [toList_text_fair] at chars
          cases (processChars_inj chars).2
      | unfair other =>
          rw [toList_text_unfair] at chars
          rw [(processChars_inj chars).1]

theorem printedApart : PrintedApart text fun _ => True where
  nonempty entry := by
    cases entry with
    | notApplicable => exact List.cons_ne_nil _ _
    | fair process =>
        rw [toList_text_fair]
        exact List.cons_ne_nil _ _
    | unfair process =>
        rw [toList_text_unfair]
        exact List.cons_ne_nil _ _
  plain entry _ := by
    cases entry with
    | notApplicable => decide
    | fair process =>
        rw [toList_text_fair]
        exact isPlain_processChars process (by decide)
    | unfair process =>
        rw [toList_text_unfair]
        exact isPlain_processChars process (by decide)
  injective := text_injective

end Fairness

/-! ### Lines -/

/-- The text between the margin and the end of a line of entries. -/
def lineChars (entries : List String) : List Char :=
  "  [".toList ++ ([',', ' '].intercalate (entries.map String.toList) ++ [']'])

theorem toList_bracketLine (entries : List String) (rest : List Char) :
    (bracketLine entries).toList ++ rest = lineChars entries ++ '\n' :: rest := by
  simp [bracketLine, lineChars, String.toList_intercalate]

namespace PrintedApart

variable {α : Type} {text : α → String} {Proper : α → Prop} (printed : PrintedApart text Proper)
include printed

theorem newline_notMem_lineChars {entries : List α} (proper : ∀ entry ∈ entries, Proper entry) :
    '\n' ∉ lineChars (entries.map text) := by
  have between : ∀ char ∈ [',', ' '], char ≠ '\n' :=
    List.forall_mem_cons.mpr ⟨by decide, List.forall_mem_singleton.mpr (by decide)⟩
  have within : ∀ chars ∈ (entries.map text).map String.toList, ∀ char ∈ chars, char ≠ '\n' := by
    rw [List.map_map, List.forall_mem_map]
    rintro entry member _ found rfl
    exact (printed.plain entry (proper entry member)).2 found
  have inner := forall_mem_intercalate between within
  rw [lineChars, List.mem_append, List.mem_append]
  rintro (margin | inEntries | bracket)
  · exact absurd margin (by decide)
  · exact inner _ inEntries rfl
  · exact absurd bracket (by decide)

theorem lineChars_inj {left right : List α} (leftProper : ∀ entry ∈ left, Proper entry)
    (rightProper : ∀ entry ∈ right, Proper entry)
    (same : lineChars (left.map text) = lineChars (right.map text)) : left = right := by
  have separate {entries : List α} (proper : ∀ entry ∈ entries, Proper entry) :
      ∀ chars ∈ (entries.map text).map String.toList, chars ≠ [] ∧ ',' ∉ chars := by
    rw [List.map_map, List.forall_mem_map]
    intro entry member
    exact ⟨printed.nonempty entry, (printed.plain entry (proper entry member)).1⟩
  have texts := intercalate_inj (separate leftProper) (separate rightProper)
    (List.append_cancel_right (List.append_cancel_left same))
  rw [List.map_inj_right fun _ _ => String.toList_inj.mp] at texts
  exact (List.map_inj_right fun _ _ alike => printed.injective alike).mp texts

/-- A line of entries can be read off the text, whatever follows the line. -/
theorem bracketLine_append_inj {left right : List α} (leftProper : ∀ entry ∈ left, Proper entry)
    (rightProper : ∀ entry ∈ right, Proper entry) {rest rest' : List Char}
    (same : (bracketLine (left.map text)).toList ++ rest =
      (bracketLine (right.map text)).toList ++ rest') :
    left = right ∧ rest = rest' := by
  rw [toList_bracketLine, toList_bracketLine] at same
  obtain ⟨lines, behind⟩ := line_append_inj (printed.newline_notMem_lineChars leftProper)
    (printed.newline_notMem_lineChars rightProper) same
  exact ⟨printed.lineChars_inj leftProper rightProper lines, behind⟩

end PrintedApart

theorem Resources.text_append_inj {left right : Resources} {rest rest' : List Char}
    (same : left.text.toList ++ '\n' :: rest = right.text.toList ++ '\n' :: rest') :
    left = right ∧ rest = rest' := by
  have unbroken (resources : Resources) : '\n' ∉ resources.text.toList := by
    obtain ⟨re, rd⟩ := resources
    cases re <;> cases rd <;> decide
  obtain ⟨lines, behind⟩ := line_append_inj (unbroken left) (unbroken right) same
  refine ⟨?_, behind⟩
  obtain ⟨leftRe, leftRd⟩ := left
  obtain ⟨rightRe, rightRd⟩ := right
  revert lines
  cases leftRe <;> cases leftRd <;> cases rightRe <;> cases rightRd <;> decide

/-! ### States and traces -/

namespace State

/-- No name of a predicate has a comma or a new line in it. -/
def PlainNames (state : State) : Prop :=
  ∀ status ∈ state.predicates, IsPlain status.name.toList

theorem toList_text (state : State) (rest : List Char) :
    state.text.toList ++ rest =
      state.timestep.repr.toList ++ ':' :: '\n' ::
        ((bracketLine (state.locations.map (·.text))).toList ++
          ((bracketLine (state.predicates.map (·.text))).toList ++
            ((bracketLine (state.fairness.map (·.text))).toList ++
              (' ' :: ' ' :: (state.resources.text.toList ++ '\n' :: rest))))) := by
  simp [text]

theorem text_append_inj {left right : State} (leftPlain : left.PlainNames)
    (rightPlain : right.PlainNames) {rest rest' : List Char}
    (same : left.text.toList ++ rest = right.text.toList ++ rest') : left = right ∧ rest = rest' := by
  rw [toList_text, toList_text] at same
  obtain ⟨timesteps, afterTimestep⟩ :=
    numeral_append_inj (stopsAt_cons rfl _) (stopsAt_cons rfl _) same
  obtain ⟨locations, afterLocations⟩ :=
    ProcessLocation.printedApart.bracketLine_append_inj (fun _ _ => trivial) (fun _ _ => trivial)
      (List.cons.inj (List.cons.inj afterTimestep).2).2
  obtain ⟨predicates, afterPredicates⟩ :=
    PredicateStatus.printedApart.bracketLine_append_inj leftPlain rightPlain afterLocations
  obtain ⟨fairness, afterFairness⟩ :=
    Fairness.printedApart.bracketLine_append_inj (fun _ _ => trivial) (fun _ _ => trivial)
      afterPredicates
  obtain ⟨resources, rests⟩ :=
    Resources.text_append_inj (List.cons.inj (List.cons.inj afterFairness).2).2
  refine ⟨?_, rests⟩
  cases left
  cases right
  cases timesteps
  cases locations
  cases predicates
  cases fairness
  cases resources
  rfl

theorem flatMap_text_inj {left right : List State} (leftPlain : ∀ state ∈ left, state.PlainNames)
    (rightPlain : ∀ state ∈ right, state.PlainNames)
    (same : left.flatMap (·.text.toList) = right.flatMap (·.text.toList)) : left = right := by
  have nonempty (state : State) (rest : List Char) : state.text.toList ++ rest ≠ [] := by
    rw [toList_text]
    exact List.append_ne_nil_of_right_ne_nil _ (List.cons_ne_nil _ _)
  induction left generalizing right with
  | nil =>
      cases right with
      | nil => rfl
      | cons state rest => exact absurd same.symm (nonempty state _)
  | cons state rest ih =>
      cases right with
      | nil => exact absurd same (nonempty state _)
      | cons state' rest' =>
          obtain ⟨plain, restPlain⟩ := List.forall_mem_cons.mp leftPlain
          obtain ⟨plain', restPlain'⟩ := List.forall_mem_cons.mp rightPlain
          rw [List.flatMap_cons, List.flatMap_cons] at same
          obtain ⟨rfl, behind⟩ := text_append_inj plain plain' same
          rw [ih restPlain restPlain' behind]

end State

namespace Trace

def PlainNames (trace : Trace) : Prop := ∀ state ∈ trace.states, state.PlainNames

/-- Traces whose predicate names have neither a comma nor a new line in them are printed alike only if
they are the same. -/
theorem text_lossless {left right : Trace} (leftPlain : left.PlainNames)
    (rightPlain : right.PlainNames) : left.text = right.text ↔ left = right := by
  constructor
  · intro same
    have chars := congrArg String.toList same
    rw [text, text, String.toList_join, String.toList_join, List.flatMap_map, List.flatMap_map]
      at chars
    have states := State.flatMap_text_inj leftPlain rightPlain chars
    cases left
    cases right
    cases states
    rfl
  · intro same
    rw [same]

/-- A state with one predicate and nothing else. -/
def ofPredicate (name : String) (value : Truth) : Trace :=
  ⟨[{ timestep := 0, predicates := [⟨name, value⟩] }]⟩

theorem plainNames_ofPredicate {name : String} (plain : IsPlain name.toList) (value : Truth) :
    (ofPredicate name value).PlainNames :=
  List.forall_mem_singleton.mpr (List.forall_mem_singleton.mpr plain)

/-- The first name looks like the entry of the second one, with a bracket behind it. -/
theorem text_lossless_lookalike :
    (ofPredicate "p = true]" .yes).PlainNames ∧ (ofPredicate "p" .yes).PlainNames ∧
      (ofPredicate "p = true]" .yes).text ≠ (ofPredicate "p" .yes).text := by
  have left : (ofPredicate "p = true]" .yes).PlainNames := plainNames_ofPredicate (by decide) .yes
  have right : (ofPredicate "p" .yes).PlainNames := plainNames_ofPredicate (by decide) .yes
  refine ⟨left, right, ?_⟩
  rw [ne_eq, text_lossless left right]
  decide

/-- With a comma in it, one name is printed like two entries. -/
example :
    (ofPredicate "p = true, q" .no).text =
      text ⟨[{ timestep := 0, predicates := [⟨"p", .yes⟩, ⟨"q", .no⟩] }]⟩ :=
  rfl

end Trace

end Trivalent
