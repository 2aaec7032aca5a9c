import Trivalent.Atom
import Trivalent.Proofs.Text.Numeral

/-!
Names of atoms, field by field. A name is its fields joined by underscores, no field holds an
underscore, and so the fields can be read off the name (`splitOn_name`). Reading a name undoes
writing it, and nothing else is read (`parse?_name` and `eq_name_of_parse?`).
-/

set_option autoImplicit false

namespace Trivalent.Atom

def fields : Atom → List (List Char)
  | .location timestep process digit =>
      [['n'], timestep.repr.toList, process.repr.toList, digit.repr.toList]
  | .predicate id timestep aspect =>
      [id.repr.toList, timestep.repr.toList, aspect.letter.toList]
  | .fairness timestep process => [['f', 'r'], timestep.repr.toList, process.repr.toList]
  | .resource flag timestep => [flag.text.toList, timestep.repr.toList]
  | .status => ["unknown".toList]

theorem fields_ne_nil (atom : Atom) : atom.fields ≠ [] := by
  cases atom <;> exact List.cons_ne_nil _ _

theorem toList_name (atom : Atom) : atom.name.toList = ['_'].intercalate atom.fields := by
  cases atom <;> simp [name, fields, List.intercalate]

theorem underscore_notMem_fields (atom : Atom) : ∀ field ∈ atom.fields, '_' ∉ field := by
  cases atom with
  | location timestep process digit => simp [fields]
  | predicate id timestep aspect => cases aspect <;> simp [fields, PredicateAspect.letter]
  | fairness timestep process => simp [fields]
  | resource flag timestep => cases flag <;> simp [fields, ResourceFlag.text]
  | status => simp [fields]

theorem splitOn_name (atom : Atom) : atom.name.toList.splitOn '_' = atom.fields := by
  rw [toList_name]
  exact List.splitOn_intercalate '_' atom.underscore_notMem_fields atom.fields_ne_nil

theorem toList_repr_inj {left right : Nat} :
    left.repr.toList = right.repr.toList ↔ left = right := by
  constructor
  · intro same
    rw [Nat.toList_repr, Nat.toList_repr] at same
    have values := congrArg (fun digits => Nat.ofDigitChars 10 digits 0) same
    simp only [Nat.ofDigitChars_toDigits (b := 10) (by decide) (by decide)] at values
    exact values
  · intro same
    rw [same]

theorem toDigits_inj {left right : Nat} :
    Nat.toDigits 10 left = Nat.toDigits 10 right ↔ left = right := by
  rw [← Nat.toList_repr, ← Nat.toList_repr, toList_repr_inj]

/-- Digits of different timesteps, processes or places have different names. -/
theorem location_name_inj {timestep process digit timestep' process' digit' : Nat} :
    (location timestep process digit).name = (location timestep' process' digit').name ↔
      timestep = timestep' ∧ process = process' ∧ digit = digit' := by
  constructor
  · intro same
    have split := congrArg (fun text => text.toList.splitOn '_') same
    simp only [splitOn_name, fields, List.cons.injEq, toList_repr_inj, true_and, and_true] at split
    exact split
  · rintro ⟨rfl, rfl, rfl⟩
    rfl

/-- The fields of a fairness atom are three like those of a predicate atom, but the first one is no
numeral. -/
theorem toDigits_ne_fairness (id : Nat) : Nat.toDigits 10 id ≠ ['f', 'r'] :=
  Numeral.toDigits_ne_of_mem List.mem_cons_self rfl id

theorem fields_injective {left right : Atom} (same : left.fields = right.fields) :
    left = right := by
  cases left with
  | location timestep process digit => cases right <;> simp_all [fields, toDigits_inj]
  | predicate id timestep aspect =>
      have notFairness := toDigits_ne_fairness id
      cases right with
      | predicate _ _ other =>
          cases aspect <;> cases other <;> simp_all [fields, toDigits_inj, PredicateAspect.letter]
      | _ => simp_all [fields]
  | fairness timestep process =>
      cases right with
      | predicate id _ _ =>
          have notFairness := toDigits_ne_fairness id
          simp_all [fields]
      | _ => simp_all [fields, toDigits_inj]
  | resource flag timestep =>
      cases right with
      | resource other _ =>
          cases flag <;> cases other <;> simp_all [fields, toDigits_inj, ResourceFlag.text]
      | _ => simp_all [fields]
  | status => cases right <;> simp_all [fields]

theorem name_injective : Function.Injective name := by
  intro left right same
  apply fields_injective
  rw [← splitOn_name, ← splitOn_name, same]

/-! ### Reading names -/

/-- Every number in the atom is a word. -/
def InWords : Atom → Prop
  | .location timestep process digit =>
      timestep < wordLimit ∧ process < wordLimit ∧ digit < wordLimit
  | .predicate id timestep _ => id < wordLimit ∧ timestep < wordLimit
  | .fairness timestep process => timestep < wordLimit ∧ process < wordLimit
  | .resource _ timestep => timestep < wordLimit
  | .status => True

theorem eq_name_of_splitOn {text : String} {atom : Atom}
    (split : text.toList.splitOn '_' = atom.fields) : text = atom.name := by
  apply String.toList_inj.mp
  rw [toList_name, ← split, List.intercalate_splitOn]

theorem parse?_name {atom : Atom} (words : atom.InWords) : parse? atom.name = some atom := by
  by_cases status : atom = .status
  · rw [status]
    rfl
  have notUnknown : atom.name ≠ "unknown" := fun same => status (name_injective same)
  rw [parse?, if_neg notUnknown, splitOn_name]
  cases atom with
  | location timestep process digit =>
      obtain ⟨first, second, third⟩ := words
      simp [fields, Numeral.parse?_toDigits, first, second, third]
  | predicate id timestep aspect =>
      obtain ⟨first, second⟩ := words
      have notFairness := toDigits_ne_fairness id
      cases aspect with
      | unknown => simp [fields, PredicateAspect.letter, Numeral.parse?_toDigits, first, second]
      | holds => simp [fields, PredicateAspect.letter, Numeral.parse?_toDigits, first, second]
  | fairness timestep process =>
      obtain ⟨first, second⟩ := words
      simp [fields, Numeral.parse?_toDigits, first, second]
  | resource flag timestep =>
      have small : timestep < wordLimit := words
      cases flag with
      | re => simp [fields, ResourceFlag.text, Numeral.parse?_toDigits, small]
      | rd => simp [fields, ResourceFlag.text, Numeral.parse?_toDigits, small]
  | status => exact absurd rfl status

theorem eq_name_of_parse? {text : String} {atom : Atom} (parsed : parse? text = some atom) :
    text = atom.name ∧ atom.InWords := by
  unfold parse? at parsed
  split at parsed
  · rename_i unknown
    cases parsed
    exact ⟨unknown, trivial⟩
  split at parsed
  all_goals
    simp only [Option.bind_eq_bind, Option.bind_eq_some_iff, Option.pure_def, Option.some.injEq,
      Numeral.parse?_eq_some_iff, reduceCtorEq] at parsed
  · obtain ⟨timestep, ⟨rfl, first⟩, process, ⟨rfl, second⟩, digit, ⟨rfl, third⟩, rfl⟩ := parsed
    refine ⟨eq_name_of_splitOn ?_, first, second, third⟩
    simpa [fields]
  · obtain ⟨timestep, ⟨rfl, first⟩, process, ⟨rfl, second⟩, rfl⟩ := parsed
    refine ⟨eq_name_of_splitOn ?_, first, second⟩
    simpa [fields]
  · obtain ⟨timestep, ⟨rfl, small⟩, rfl⟩ := parsed
    refine ⟨eq_name_of_splitOn ?_, small⟩
    simpa [fields, ResourceFlag.text]
  · obtain ⟨timestep, ⟨rfl, small⟩, rfl⟩ := parsed
    refine ⟨eq_name_of_splitOn ?_, small⟩
    simpa [fields, ResourceFlag.text]
  · obtain ⟨id, ⟨rfl, first⟩, timestep, ⟨rfl, second⟩, rfl⟩ := parsed
    refine ⟨eq_name_of_splitOn ?_, first, second⟩
    simpa [fields, PredicateAspect.letter]
  · obtain ⟨id, ⟨rfl, first⟩, timestep, ⟨rfl, second⟩, rfl⟩ := parsed
    refine ⟨eq_name_of_splitOn ?_, first, second⟩
    simpa [fields, PredicateAspect.letter]

/-- Names and atoms of words belong together one to one: a text is read as an atom exactly if it is
the atom's name and every number in it is a word, and different atoms have different names. -/
theorem parse_inverts_name :
    (∀ (text : String) (atom : Atom),
      parse? text = some atom ↔ text = atom.name ∧ atom.InWords) ∧
    Function.Injective name := by
  refine ⟨?_, name_injective⟩
  intro text atom
  constructor
  · exact eq_name_of_parse?
  · rintro ⟨rfl, words⟩
    exact parse?_name words

end Trivalent.Atom
