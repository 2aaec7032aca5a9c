import Mathlib.Data.List.TakeWhile
import Trivalent.Formula.LiteralText
import Trivalent.Proofs.Atom.Names
import Trivalent.Proofs.Text.Separator

/-!
The grammar of literals. A text spells a formula if it is a constant, a name or a name behind a tilde,
with white space around it and behind the tilde; reading accepts these texts and no others
(`parseLiteral?_eq_some_iff`). The text of a literal with a proper name is among them, and the names of
atoms are proper.
-/

set_option autoImplicit false

namespace Trivalent

namespace Text

/-! ### White space -/

/-- The characters with the property White_Space, one by one. -/
def whiteSpace : List Nat :=
  [0x09, 0x0A, 0x0B, 0x0C, 0x0D, 0x20, 0x85, 0xA0, 0x1680, 0x2000, 0x2001, 0x2002, 0x2003, 0x2004,
    0x2005, 0x2006, 0x2007, 0x2008, 0x2009, 0x200A, 0x2028, 0x2029, 0x202F, 0x205F, 0x3000]

/-- Nothing but white space, or nothing at all. -/
def IsBlankText (chars : List Char) : Prop := ∀ char ∈ chars, char.toNat ∈ whiteSpace

theorem isBlankText_nil : IsBlankText [] := List.forall_mem_nil _

theorem isBlank_iff {char : Char} : isBlank char = true ↔ char.toNat ∈ whiteSpace := by
  simp only [isBlank, blankRanges, whiteSpace, List.any_cons, List.any_nil, Bool.or_eq_true,
    Bool.and_eq_true, decide_eq_true_eq, Bool.false_eq_true, or_false, List.mem_cons,
    List.not_mem_nil]
  omega

/-- The text does not start with white space. -/
def StartsSolid (chars : List Char) : Prop := ∀ char ∈ chars.head?, isBlank char = false

theorem StartsSolid.append {chars : List Char} (solid : StartsSolid chars) (nonempty : chars ≠ [])
    (rest : List Char) : StartsSolid (chars ++ rest) := by
  cases chars with
  | nil => exact absurd rfl nonempty
  | cons first others => exact solid

theorem trimStart_append {before : List Char} (blank : IsBlankText before) (rest : List Char) :
    trimStart (before ++ rest) = trimStart rest :=
  List.dropWhile_append_of_pos fun char member => isBlank_iff.mpr (blank char member)

theorem trimStart_of_solid {chars : List Char} (solid : StartsSolid chars) :
    trimStart chars = chars := by
  cases chars with
  | nil => rfl
  | cons first rest =>
      have dark : isBlank first = false := solid first rfl
      exact List.dropWhile_cons_of_neg (Bool.eq_false_iff.mp dark)

theorem exists_trimStart (chars : List Char) :
    ∃ before, IsBlankText before ∧ chars = before ++ trimStart chars := by
  refine ⟨chars.takeWhile isBlank, ?_, List.takeWhile_append_dropWhile.symm⟩
  intro char member
  exact isBlank_iff.mp (List.mem_takeWhile_imp member)

theorem exists_trim (chars : List Char) :
    ∃ before after, IsBlankText before ∧ IsBlankText after ∧
      chars = before ++ (trim chars ++ after) := by
  obtain ⟨before, blank, front⟩ := exists_trimStart chars
  obtain ⟨behind, blankBehind, back⟩ := exists_trimStart (trimStart chars).reverse
  refine ⟨before, behind.reverse, blank, ?_, ?_⟩
  · intro char member
    exact blankBehind char (List.mem_reverse.mp member)
  · have whole : trimStart chars = trim chars ++ behind.reverse := by
      rw [trim, ← List.reverse_append, ← back, List.reverse_reverse]
    rw [← whole]
    exact front

theorem trim_of_solid {before body after : List Char} (blankBefore : IsBlankText before)
    (blankAfter : IsBlankText after) (nonempty : body ≠ []) (solid : StartsSolid body)
    (solidEnd : StartsSolid body.reverse) : trim (before ++ (body ++ after)) = body := by
  have front : trimStart (before ++ (body ++ after)) = body ++ after := by
    rw [trimStart_append blankBefore]
    exact trimStart_of_solid (solid.append nonempty after)
  have blankBehind : IsBlankText after.reverse :=
    fun char member => blankAfter char (List.mem_reverse.mp member)
  rw [trim, front, List.reverse_append, trimStart_append blankBehind, trimStart_of_solid solidEnd,
    List.reverse_reverse]

end Text

namespace Formula

open Text

/-! ### Names and their texts -/

/-- At least one character, and only ASCII letters and digits, underscores, points and number
signs. -/
structure IsIdentifier (chars : List Char) : Prop where
  nonempty : chars ≠ []
  letters : ∀ char ∈ chars, char.isAlphanum = true ∨ char ∈ ['_', '.', '#']

theorem isNameChar_iff {char : Char} :
    isNameChar char = true ↔ char.isAlphanum = true ∨ char ∈ ['_', '.', '#'] := by
  simp only [isNameChar, Bool.or_eq_true, beq_iff_eq, List.mem_cons, List.not_mem_nil, or_false,
    or_assoc]

theorem isName_iff {chars : List Char} : isName chars = true ↔ IsIdentifier chars := by
  rw [isName, Bool.and_eq_true, List.all_eq_true, Bool.not_eq_true', List.isEmpty_eq_false_iff]
  constructor
  · rintro ⟨nonempty, letters⟩
    exact ⟨nonempty, fun char member => isNameChar_iff.mp (letters char member)⟩
  · intro identifier
    exact ⟨identifier.nonempty, fun char member => isNameChar_iff.mpr (identifier.letters char member)⟩

/-- No character is white space and part of a name at once. -/
theorem isBlank_of_isNameChar {char : Char} (letter : isNameChar char = true) :
    isBlank char = false := by
  rw [Bool.eq_false_iff, ne_eq, isBlank_iff]
  intro blank
  have code : char = Char.ofNat char.toNat := (Char.ofNat_toNat char).symm
  have foreign : whiteSpace.all (fun number => !isNameChar (Char.ofNat number)) = true := rfl
  rw [List.all_eq_true] at foreign
  have refused := foreign char.toNat blank
  rw [← code, letter] at refused
  cases refused

namespace IsIdentifier

variable {name : List Char} (identifier : IsIdentifier name)
include identifier

theorem notMem {char : Char} (foreign : isNameChar char = false) : char ∉ name := by
  intro member
  rw [isNameChar_iff.mpr (identifier.letters char member)] at foreign
  cases foreign

theorem startsSolid : StartsSolid name := by
  intro char first
  exact isBlank_of_isNameChar (isNameChar_iff.mpr (identifier.letters char (List.mem_of_head? first)))

theorem reverse_startsSolid : StartsSolid name.reverse := by
  intro char first
  have member : char ∈ name := List.mem_reverse.mp (List.mem_of_head? first)
  exact isBlank_of_isNameChar (isNameChar_iff.mpr (identifier.letters char member))

end IsIdentifier

/-! ### The grammar -/

/-- The word of a constant. -/
def constantWord : Bool → List Char
  | true => "$true".toList
  | false => "$false".toList

/-- The text of a formula of one literal, without white space around it. -/
inductive IsTextOf : List Char → Formula → Prop where
  | constant (value : Bool) : IsTextOf (constantWord value) (.const value)
  | positive {name : List Char} :
      IsIdentifier name → IsTextOf name (.lit ⟨String.ofList name, true⟩)
  | negative {between name : List Char} :
      IsBlankText between → IsIdentifier name →
      IsTextOf ('~' :: (between ++ name)) (.lit ⟨String.ofList name, false⟩)

/-- The text of a formula, with any white space around it. -/
inductive Spells : List Char → Formula → Prop where
  | padded {before body after : List Char} {formula : Formula} :
      IsBlankText before → IsTextOf body formula → IsBlankText after →
      Spells (before ++ (body ++ after)) formula

namespace IsTextOf

variable {body : List Char} {formula : Formula}

theorem ne_nil (isText : IsTextOf body formula) : body ≠ [] := by
  cases isText with
  | constant value => cases value <;> exact List.cons_ne_nil _ _
  | positive identifier => exact identifier.nonempty
  | negative _ _ => exact List.cons_ne_nil _ _

theorem startsSolid (isText : IsTextOf body formula) : StartsSolid body := by
  cases isText with
  | constant value =>
      cases value <;>
      · rintro char ⟨⟩
        rfl
  | positive identifier => exact identifier.startsSolid
  | negative _ _ =>
      rintro char ⟨⟩
      rfl

theorem reverse_startsSolid (isText : IsTextOf body formula) : StartsSolid body.reverse := by
  cases isText with
  | constant value =>
      cases value <;>
      · rintro char ⟨⟩
        rfl
  | positive identifier => exact identifier.reverse_startsSolid
  | @negative between name _ identifier =>
      -- the last character is the last one of the name
      rw [← List.cons_append, List.reverse_append]
      exact identifier.reverse_startsSolid.append
        (List.reverse_ne_nil_iff.mpr identifier.nonempty) _

end IsTextOf

theorem spells_iff {chars : List Char} {formula : Formula} :
    Spells chars formula ↔ IsTextOf (trim chars) formula := by
  constructor
  · rintro ⟨blankBefore, isText, blankAfter⟩
    rw [trim_of_solid blankBefore blankAfter isText.ne_nil isText.startsSolid
      isText.reverse_startsSolid]
    exact isText
  · intro isText
    obtain ⟨before, after, blankBefore, blankAfter, whole⟩ := exists_trim chars
    rw [whole]
    exact .padded blankBefore isText blankAfter

theorem isTextOf_of_parseLiteral? {text : String} {formula : Formula}
    (read : parseLiteral? text = some formula) : IsTextOf (trim text.toList) formula := by
  unfold parseLiteral? at read
  generalize trim text.toList = body at read ⊢
  by_cases verum : body = "$true".toList
  · simp only [verum, if_true] at read
    cases read
    rw [verum]
    exact .constant true
  by_cases falsum : body = "$false".toList
  · rw [if_neg verum, if_pos falsum] at read
    cases read
    rw [falsum]
    exact .constant false
  simp only [verum, falsum, if_false] at read
  split at read
  · rename_i rest
    obtain ⟨named, same⟩ := Option.ite_none_right_eq_some.mp read
    cases same
    obtain ⟨between, blank, behind⟩ := exists_trimStart rest
    have isText := IsTextOf.negative blank (isName_iff.mp named)
    rw [← behind] at isText
    exact isText
  · obtain ⟨named, same⟩ := Option.ite_none_right_eq_some.mp read
    cases same
    exact .positive (isName_iff.mp named)

theorem parseLiteral?_of_isTextOf {text : String} {formula : Formula}
    (isText : IsTextOf (trim text.toList) formula) : parseLiteral? text = some formula := by
  unfold parseLiteral?
  generalize trim text.toList = body at isText ⊢
  cases isText with
  | constant value => cases value <;> rfl
  | positive identifier =>
      have noDollar : '$' ∉ body := identifier.notMem rfl
      have noTilde : '~' ∉ body := identifier.notMem rfl
      have verum : body ≠ "$true".toList := fun same => noDollar (same ▸ List.mem_cons_self)
      have falsum : body ≠ "$false".toList := fun same => noDollar (same ▸ List.mem_cons_self)
      simp only [verum, falsum, if_false]
      split
      · exact absurd List.mem_cons_self noTilde
      · exact if_pos (isName_iff.mpr identifier)
  | @negative between name blank identifier =>
      have rest : trimStart (between ++ name) = name := by
        rw [trimStart_append blank, trimStart_of_solid identifier.startsSolid]
      have verum : '~' :: (between ++ name) ≠ "$true".toList := by
        rintro ⟨⟩
      have falsum : '~' :: (between ++ name) ≠ "$false".toList := by
        rintro ⟨⟩
      simp only [verum, falsum, if_false, rest]
      exact if_pos (isName_iff.mpr identifier)

theorem parseLiteral?_eq_some_iff {text : String} {formula : Formula} :
    parseLiteral? text = some formula ↔ Spells text.toList formula := by
  rw [spells_iff]
  exact ⟨isTextOf_of_parseLiteral?, parseLiteral?_of_isTextOf⟩

/-! ### Texts of literals -/

theorem isTextOf_text {literal : Literal} (identifier : IsIdentifier literal.name.toList) :
    IsTextOf literal.text.toList (.lit literal) := by
  obtain ⟨name, polarity⟩ := literal
  cases polarity with
  | true =>
      have isText := IsTextOf.positive identifier
      rw [String.ofList_toList] at isText
      exact isText
  | false =>
      have text : (Literal.text ⟨name, false⟩).toList = '~' :: name.toList := String.toList_append
      have isText := IsTextOf.negative isBlankText_nil identifier
      rw [String.ofList_toList] at isText
      rw [text]
      exact isText

theorem parseLiteral?_text {literal : Literal} (identifier : IsIdentifier literal.name.toList) :
    parseLiteral? literal.text = some (.lit literal) := by
  have isText := isTextOf_text identifier
  have padded : Spells literal.text.toList (.lit literal) := by
    have spells := Spells.padded isBlankText_nil isText isBlankText_nil
    rw [List.nil_append, List.append_nil] at spells
    exact spells
  exact parseLiteral?_eq_some_iff.mpr padded

end Formula

namespace Atom

open Formula

theorem isNameChar_of_mem_repr {number : Nat} {char : Char} (member : char ∈ number.repr.toList) :
    isNameChar char = true := by
  rw [Nat.toList_repr] at member
  have digit := Nat.isDigit_of_mem_toDigits (by decide) (by decide) member
  simp only [isNameChar, Char.isAlphanum, digit, Bool.or_true, Bool.true_or]

theorem isNameChar_of_mem_fields (atom : Atom) :
    ∀ field ∈ atom.fields, field.all isNameChar = true := by
  have numeral (number : Nat) : number.repr.toList.all isNameChar = true :=
    List.all_eq_true.mpr fun _ => isNameChar_of_mem_repr
  cases atom with
  | location timestep process digit =>
      simp only [fields, List.forall_mem_cons, numeral, true_and]
      exact ⟨rfl, List.forall_mem_nil _⟩
  | predicate id timestep aspect =>
      simp only [fields, List.forall_mem_cons, numeral, true_and]
      cases aspect <;> exact ⟨rfl, List.forall_mem_nil _⟩
  | fairness timestep process =>
      simp only [fields, List.forall_mem_cons, numeral, true_and]
      exact ⟨rfl, List.forall_mem_nil _⟩
  | resource flag timestep =>
      simp only [fields, List.forall_mem_cons, numeral, true_and]
      cases flag <;> exact ⟨rfl, List.forall_mem_nil _⟩
  | status => exact List.forall_mem_singleton.mpr rfl

theorem name_isIdentifier (atom : Atom) : IsIdentifier atom.name.toList := by
  rw [← isName_iff, isName, toList_name, Bool.and_eq_true]
  constructor
  · cases atom <;> simp [fields, List.intercalate]
  · rw [List.all_eq_true]
    apply Text.forall_mem_intercalate
    · exact List.forall_mem_singleton.mpr rfl
    · intro field member
      exact List.all_eq_true.mp (atom.isNameChar_of_mem_fields field member)

end Atom

namespace Formula

/-- A text is read as a formula exactly if it spells the formula. So the text of a literal is read as
the literal if its name is an identifier, and the literals of atoms are read from their texts. -/
theorem literals_read_by_grammar :
    (∀ (text : String) (formula : Formula),
      parseLiteral? text = some formula ↔ Spells text.toList formula) ∧
    (∀ literal : Literal, IsIdentifier literal.name.toList →
      parseLiteral? literal.text = some (.lit literal)) ∧
    ∀ (atom : Atom) (polarity : Bool),
      parseLiteral? (atom.literal polarity).text = some (atom.formula polarity) := by
  refine ⟨fun _ _ => parseLiteral?_eq_some_iff, fun _ => parseLiteral?_text, ?_⟩
  intro atom polarity
  exact parseLiteral?_text atom.name_isIdentifier

/-- An em space stands in front of the tilde, a tab behind it and a line feed at the end. -/
theorem literals_read_by_grammar_padded :
    Spells "\u2003~\t3.x#\n".toList (.lit ⟨"3.x#", false⟩) ∧
      ¬Spells "~3.x #".toList (.lit ⟨"3.x #", false⟩) ∧
      IsIdentifier "3.x#".toList ∧
      parseLiteral? (Literal.text ⟨"3.x#", false⟩) = some (.lit ⟨"3.x#", false⟩) := by
  obtain ⟨read, written, _⟩ := literals_read_by_grammar
  have identifier : IsIdentifier "3.x#".toList := isName_iff.mp rfl
  refine ⟨(read _ _).mp (by decide +kernel), ?_, identifier, written ⟨"3.x#", false⟩ identifier⟩
  rw [← read]
  decide +kernel

end Formula

end Trivalent
