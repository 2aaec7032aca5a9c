import Trivalent.Proofs.Location.Digits

/-!
Reading a location from any text. The text is read from the left and the first problem decides: a text
of binary digits spells its value, unless the value is no word; a character that is no digit is reported
if the digits before it still spell a word (`parse_of_binary`, `parse_of_overflows` and `parse_of_foreign`).
Every text is of one of these kinds.
-/

set_option autoImplicit false

namespace Trivalent.Location

/-- Nothing but zeros and ones, in any number. -/
def IsBinary (chars : List Char) : Prop := ∀ char ∈ chars, char = '0' ∨ char = '1'

/-- The number that zeros and ones spell, the most significant first. -/
def binaryValue (chars : List Char) : Nat := ofDigits (chars.map (· == '1'))

/-- Some digits at the start of the text spell a number that is no word. -/
def Overflows (chars : List Char) : Prop :=
  ∃ before, before <+: chars ∧ IsBinary before ∧ wordLimit ≤ binaryValue before

/-- The character is the first one in the text that is no binary digit. -/
def FirstForeign (chars : List Char) (found : Char) : Prop :=
  ∃ before after, chars = before ++ found :: after ∧ IsBinary before ∧ ¬(found = '0' ∨ found = '1')

theorem map_digitChar {chars : List Char} (binary : IsBinary chars) :
    (chars.map (· == '1')).map digitChar = chars := by
  rw [List.map_map]
  refine (List.map_congr_left ?_).trans (List.map_id chars)
  intro char member
  rcases binary char member with rfl | rfl <;> rfl

/-- Digits at the start of a text are read as their value, which has to be a word. -/
theorem parse_append {text : String} {before rest : List Char} (split : text.toList = before ++ rest)
    (binary : IsBinary before) :
    parse text =
      if binaryValue before < wordLimit then parseFrom text (binaryValue before) rest
      else .error (.overflow text) := by
  have read := parseFrom_append text (show 0 < wordLimit by decide) (before.map (· == '1')) rest
  rw [map_digitChar binary, Nat.zero_mul, Nat.zero_add] at read
  rw [parse, split]
  exact read

theorem parse_of_binary {text : String} (binary : IsBinary text.toList)
    (word : binaryValue text.toList < wordLimit) : parse text = .ok (binaryValue text.toList) := by
  rw [parse_append (List.append_nil text.toList).symm binary, if_pos word, parseFrom]

theorem parse_of_overflows {text : String} (overflows : Overflows text.toList) :
    parse text = .error (.overflow text) := by
  obtain ⟨before, ⟨rest, split⟩, binary, large⟩ := overflows
  rw [parse_append split.symm binary, if_neg (Nat.not_lt.mpr large)]

theorem parse_of_foreign {text : String} {found : Char} (foreign : FirstForeign text.toList found)
    (words : ¬Overflows text.toList) : parse text = .error (.invalidDigit text found) := by
  obtain ⟨before, after, split, binary, noDigit⟩ := foreign
  have word : binaryValue before < wordLimit := by
    apply Nat.not_le.mp
    intro large
    exact words ⟨before, ⟨found :: after, split.symm⟩, binary, large⟩
  rw [parse_append split binary, if_pos word, parseFrom, if_neg noDigit]

theorem binary_or_foreign (chars : List Char) :
    IsBinary chars ∨ ∃ found, FirstForeign chars found := by
  induction chars with
  | nil => exact Or.inl (List.forall_mem_nil _)
  | cons char rest ih =>
      by_cases digit : char = '0' ∨ char = '1'
      · rcases ih with binary | ⟨found, before, after, split, binary, noDigit⟩
        · exact Or.inl (List.forall_mem_cons.mpr ⟨digit, binary⟩)
        · refine Or.inr ⟨found, char :: before, after, ?_, ?_, noDigit⟩
          · rw [split, List.cons_append]
          · exact List.forall_mem_cons.mpr ⟨digit, binary⟩
      · exact Or.inr ⟨char, [], rest, rfl, List.forall_mem_nil _, digit⟩

/-- The three kinds of texts, each with what is read from it. -/
theorem parse_cases (text : String) :
    (IsBinary text.toList ∧ binaryValue text.toList < wordLimit ∧
      parse text = .ok (binaryValue text.toList)) ∨
    (Overflows text.toList ∧ parse text = .error (.overflow text)) ∨
    ∃ found, FirstForeign text.toList found ∧ parse text = .error (.invalidDigit text found) := by
  by_cases overflows : Overflows text.toList
  · exact Or.inr (Or.inl ⟨overflows, parse_of_overflows overflows⟩)
  rcases binary_or_foreign text.toList with binary | ⟨found, foreign⟩
  · have word : binaryValue text.toList < wordLimit := by
      apply Nat.not_le.mp
      intro large
      exact overflows ⟨text.toList, List.prefix_rfl, binary, large⟩
    exact Or.inl ⟨binary, word, parse_of_binary binary word⟩
  · exact Or.inr (Or.inr ⟨found, foreign, parse_of_foreign foreign overflows⟩)

theorem parse_eq_ok_iff {text : String} {value : Nat} :
    parse text = .ok value ↔
      IsBinary text.toList ∧ binaryValue text.toList = value ∧ value < wordLimit := by
  constructor
  · intro read
    rcases parse_cases text with ⟨binary, word, located⟩ | ⟨_, refused⟩ | ⟨found, _, refused⟩
    · cases located.symm.trans read
      exact ⟨binary, rfl, word⟩
    · cases refused.symm.trans read
    · cases refused.symm.trans read
  · rintro ⟨binary, rfl, word⟩
    exact parse_of_binary binary word

theorem parse_eq_overflow_iff {text digits : String} :
    parse text = .error (.overflow digits) ↔ digits = text ∧ Overflows text.toList := by
  constructor
  · intro refused
    rcases parse_cases text with ⟨_, _, located⟩ | ⟨overflows, same⟩ | ⟨found, _, other⟩
    · cases located.symm.trans refused
    · cases same.symm.trans refused
      exact ⟨rfl, overflows⟩
    · cases other.symm.trans refused
  · rintro ⟨rfl, overflows⟩
    exact parse_of_overflows overflows

/-- Reading is exact on every text. A location is read exactly if the text has binary digits only and
their value is a word; an overflow is reported exactly if some digits at the start are too large for a
word; and what is left is reported as a wrong digit, with the whole text and the first character that
is no binary digit. -/
theorem parse_exact (text : String) :
    (∀ value, parse text = .ok value ↔
      IsBinary text.toList ∧ binaryValue text.toList = value ∧ value < wordLimit) ∧
    (∀ digits, parse text = .error (.overflow digits) ↔
      digits = text ∧ Overflows text.toList) ∧
    ((∃ value, parse text = .ok value) ∨ parse text = .error (.overflow text) ∨
      ∃ found, FirstForeign text.toList found ∧ parse text = .error (.invalidDigit text found)) := by
  refine ⟨fun _ => parse_eq_ok_iff, fun _ => parse_eq_overflow_iff, ?_⟩
  rcases parse_cases text with ⟨_, _, located⟩ | ⟨_, refused⟩ | wrong
  · exact Or.inl ⟨_, located⟩
  · exact Or.inr (Or.inl refused)
  · exact Or.inr (Or.inr wrong)

end Trivalent.Location
