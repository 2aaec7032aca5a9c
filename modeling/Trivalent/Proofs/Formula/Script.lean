import Trivalent.Formula.LiteralText
import Trivalent.Proofs.Formula.Term

/-!
Scripts, line by line. If the names of a formula can be read as literals, its script has one line for
the logic, one declaration for each variable, one assertion and one check, and the assertion has no
symbol that is not declared. Bars are put around names that start with a digit only, so a name with a
number sign and the name of a predefined symbol are declared as they are, which no user symbol may be.
-/

set_option autoImplicit false

namespace Trivalent

namespace Term

/-! ### Symbols of a term -/

mutual

/-- The symbols that stand as terms, in order of occurrence. Operators are not among them. -/
def symbols : Term → List (List Char)
  | .symbol word => [word]
  | .app _ arguments => symbolsOfAll arguments

def symbolsOfAll : List Term → List (List Char)
  | [] => []
  | argument :: rest => symbols argument ++ symbolsOfAll rest

end

mutual

/-- A term goes over the end of a line only if one of its symbols does. -/
theorem newline_notMem_chars : ∀ term : Term, (∀ word ∈ term.symbols, '\n' ∉ word) →
    '\n' ∉ term.chars
  | .symbol word, unbroken => unbroken word List.mem_cons_self
  | .app operator arguments, unbroken => by
      have operatorUnbroken : '\n' ∉ operator.chars := by cases operator <;> decide
      rw [chars, List.mem_cons, List.mem_append]
      rintro (bracket | inOperator | inArguments)
      · cases bracket
      · exact operatorUnbroken inOperator
      · exact newline_notMem_argumentChars arguments unbroken inArguments

theorem newline_notMem_argumentChars : ∀ arguments : List Term,
    (∀ word ∈ symbolsOfAll arguments, '\n' ∉ word) → '\n' ∉ argumentChars arguments
  | [], _ => by decide
  | argument :: rest, unbroken => by
      obtain ⟨here, later⟩ := List.forall_mem_append.mp unbroken
      rw [argumentChars, List.mem_cons, List.mem_append]
      rintro (blank | inArgument | inRest)
      · cases blank
      · exact newline_notMem_chars argument here inArgument
      · exact newline_notMem_argumentChars rest later inRest

end

/-! ### Symbols that a script may declare -/

def isSimpleChar (char : Char) : Bool :=
  char.isAlphanum || "~!@$%^&*_-+=<>.?/".toList.contains char

/-- A simple symbol does not start with a digit. -/
def isSimple (word : List Char) : Bool :=
  !word.isEmpty && word.all isSimpleChar && !word.head?.any Char.isDigit

/-- A quoted symbol has bars around it, and neither a bar nor a backslash inside. -/
def isQuoted : List Char → Bool
  | '|' :: rest =>
      rest.getLast? == some '|' && rest.dropLast.all fun char => char != '|' && char != '\\'
  | _ => false

/-- The symbols that have a meaning of their own. -/
def predefined : List (List Char) :=
  ["true", "false", "not", "and", "or", "=>"].map String.toList

def isUserSymbol (word : List Char) : Bool :=
  isQuoted word || (isSimple word && !predefined.contains word)

end Term

namespace Formula

open Term

/-! ### Names that can be read as literals -/

theorem isName_of_parseLiteral? {name : String} (accepted : parseLiteral? name = some (.var name)) :
    isName name.toList = true := by
  simp only [parseLiteral?, var] at accepted
  split at accepted
  · cases accepted
  · split at accepted
    · cases accepted
    · obtain ⟨named, same⟩ := Option.ite_none_right_eq_some.mp accepted
      obtain ⟨read, _⟩ := Literal.mk.inj (Formula.lit.inj (Option.some.inj same))
      rw [← read, String.toList_ofList]
      exact named

section Names

variable {name : String} (named : isName name.toList = true)
include named

theorem notMem_of_isName {char : Char} (foreign : isNameChar char = false) :
    char ∉ name.toList := by
  intro member
  rw [isName, Bool.and_eq_true, List.all_eq_true] at named
  rw [named.2 char member] at foreign
  cases foreign

theorem isWord_of_isName : IsWord name.toList := by
  refine ⟨?_, ?_⟩
  · intro empty
    rw [empty] at named
    cases named
  · intro char member
    cases delimiter : isDelimiter char with
    | false => rfl
    | true =>
        simp only [isDelimiter, Bool.or_eq_true, decide_eq_true_eq] at delimiter
        rcases delimiter with (rfl | rfl) | rfl
        · exact absurd member (notMem_of_isName named rfl)
        · exact absurd member (notMem_of_isName named rfl)
        · exact absurd member (notMem_of_isName named rfl)

theorem newline_notMem_symbol : '\n' ∉ (symbol name).toList := by
  have inName : '\n' ∉ name.toList := notMem_of_isName named rfl
  cases digit : name.toList.head?.any Char.isDigit with
  | true =>
      rw [toList_symbol_of_digit digit]
      simp [inName]
  | false =>
      rw [toList_symbol_of_not_digit digit]
      exact inName

end Names

theorem isSimpleChar_iff {char : Char} (nameChar : isNameChar char = true) :
    isSimpleChar char = true ↔ char ≠ '#' := by
  simp only [isNameChar, Bool.or_eq_true, beq_iff_eq] at nameChar
  rcases nameChar with ((alphanumeric | rfl) | rfl) | rfl
  · have other : char ≠ '#' := by
      rintro rfl
      cases alphanumeric
    simp only [isSimpleChar, alphanumeric, Bool.true_or, other, ne_eq, not_false_eq_true]
  · decide
  · decide
  · decide

theorem isQuoted_symbol {name : String} (named : isName name.toList = true) :
    isQuoted (symbol name).toList = name.toList.head?.any Char.isDigit := by
  have unbarred : '|' ∉ name.toList := notMem_of_isName named rfl
  have unslashed : '\\' ∉ name.toList := notMem_of_isName named rfl
  cases digit : name.toList.head?.any Char.isDigit with
  | true =>
      rw [toList_symbol_of_digit digit]
      simp only [isQuoted, List.getLast?_concat, List.dropLast_concat, beq_self_eq_true,
        Bool.true_and, List.all_eq_true, Bool.and_eq_true, bne_iff_ne]
      intro char member
      exact ⟨fun bar => unbarred (bar ▸ member), fun slash => unslashed (slash ▸ member)⟩
  | false =>
      rw [toList_symbol_of_not_digit digit]
      unfold isQuoted
      split
      · rename_i rest barred
        rw [barred] at unbarred
        exact absurd List.mem_cons_self unbarred
      · rfl

theorem isSimple_iff {name : String} (named : isName name.toList = true)
    (noDigit : name.toList.head?.any Char.isDigit = false) :
    isSimple name.toList = true ↔ '#' ∉ name.toList := by
  rw [isName, Bool.and_eq_true, List.all_eq_true] at named
  simp only [isSimple, named.1, noDigit, Bool.not_false, Bool.and_true, Bool.true_and,
    List.all_eq_true]
  constructor
  · intro simple sign
    exact (isSimpleChar_iff rfl).mp (simple '#' sign) rfl
  · intro unsigned char member
    exact (isSimpleChar_iff (named.2 char member)).mpr fun sign => unsigned (sign ▸ member)

/-- Which names become symbols that a script may declare. -/
theorem isUserSymbol_symbol_iff {name : String} (named : isName name.toList = true) :
    isUserSymbol (symbol name).toList = true ↔
      name.toList.head?.any Char.isDigit = true ∨
        ('#' ∉ name.toList ∧ name.toList ∉ predefined) := by
  rw [isUserSymbol, isQuoted_symbol named, Bool.or_eq_true, Bool.and_eq_true]
  cases digit : name.toList.head?.any Char.isDigit with
  | true => simp only [true_or]
  | false =>
      rw [toList_symbol_of_not_digit digit, isSimple_iff named digit, Bool.not_eq_true',
        ← Bool.not_eq_true, List.contains_iff_mem]

theorem symbol_inj {left right : String} (leftUnbarred : '|' ∉ left.toList)
    (rightUnbarred : '|' ∉ right.toList) : symbol left = symbol right ↔ left = right := by
  constructor
  · intro same
    rw [← String.toList_inj, ← unquoted_symbol leftUnbarred, same, unquoted_symbol rightUnbarred]
  · intro same
    rw [same]

/-! ### Symbols of the term of a formula -/

/-- The word is one of the two constants or the symbol of one of the names. -/
def IsSymbolOf (names : List String) (word : List Char) : Prop :=
  word ∈ ["true".toList, "false".toList] ∨ ∃ name ∈ names, (symbol name).toList = word

theorem IsSymbolOf.mono {names larger : List String} {word : List Char}
    (isSymbol : IsSymbolOf names word) (within : ∀ name ∈ names, name ∈ larger) :
    IsSymbolOf larger word :=
  isSymbol.imp_right fun ⟨name, occurs, same⟩ => ⟨name, within name occurs, same⟩

theorem IsSymbolOf.newline_notMem {names : List String} {word : List Char}
    (isSymbol : IsSymbolOf names word) (named : ∀ name ∈ names, isName name.toList = true) :
    '\n' ∉ word := by
  rcases isSymbol with constant | ⟨name, occurs, rfl⟩
  · simp only [List.mem_cons, List.not_mem_nil, or_false] at constant
    rcases constant with rfl | rfl
    · decide
    · decide
  · exact newline_notMem_symbol (named name occurs)

mutual

theorem isSymbolOf_of_mem_term {word : List Char} : ∀ formula : Formula,
    word ∈ formula.term.symbols → IsSymbolOf formula.names word
  | .const true, member => .inl (List.mem_singleton.mp member ▸ List.mem_cons_self)
  | .const false, member => .inl (List.mem_cons_of_mem _ member)
  | .lit ⟨name, true⟩, member => .inr ⟨name, List.mem_cons_self, (List.mem_singleton.mp member).symm⟩
  | .lit ⟨name, false⟩, member =>
      .inr ⟨name, List.mem_cons_self, (List.mem_singleton.mp member).symm⟩
  | .and [], member => .inl (List.mem_singleton.mp member ▸ List.mem_cons_self)
  | .and [part], member => isSymbolOf_of_mem_terms [part] (List.mem_append_left _ member)
  | .and (first :: second :: rest), member => isSymbolOf_of_mem_terms (first :: second :: rest) member
  | .or [], member => .inl (List.mem_cons_of_mem _ member)
  | .or [part], member => isSymbolOf_of_mem_terms [part] (List.mem_append_left _ member)
  | .or (first :: second :: rest), member => isSymbolOf_of_mem_terms (first :: second :: rest) member
  | .not part, member => by
      rw [term, symbols, symbolsOfAll, symbolsOfAll, List.append_nil] at member
      exact isSymbolOf_of_mem_term part member
  | .implies premise conclusion, member => by
      rw [term, symbols, symbolsOfAll, symbolsOfAll, symbolsOfAll, List.append_nil,
        List.mem_append] at member
      rcases member with inPremise | inConclusion
      · exact (isSymbolOf_of_mem_term premise inPremise).mono fun _ => List.mem_append_left _
      · exact (isSymbolOf_of_mem_term conclusion inConclusion).mono fun _ => List.mem_append_right _

theorem isSymbolOf_of_mem_terms {word : List Char} : ∀ parts : List Formula,
    word ∈ symbolsOfAll (terms parts) → IsSymbolOf (namesOfAll parts) word
  | [], member => by cases member
  | part :: rest, member => by
      rw [terms, symbolsOfAll, List.mem_append] at member
      rcases member with inPart | inRest
      · exact (isSymbolOf_of_mem_term part inPart).mono fun _ => List.mem_append_left _
      · exact (isSymbolOf_of_mem_terms rest inRest).mono fun _ => List.mem_append_right _

end

/-! ### Lines of a script -/

def declarationLine (name : String) : List Char :=
  "(declare-const ".toList ++ (symbol name).toList ++ " Bool)".toList

def scriptLines (formula : Formula) : List (List Char) :=
  "(set-logic QF_UF)".toList :: (formula.support.map declarationLine ++
    ["(assert ".toList ++ formula.smtlib.toList ++ ")".toList, "(check-sat)".toList])

theorem intercalate_lines (lines : List (List Char)) :
    ['\n'].intercalate (lines ++ [[]]) = lines.flatMap (· ++ ['\n']) := by
  induction lines with
  | nil => rfl
  | cons line rest ih =>
      have more : rest ++ [[]] ≠ [] := List.append_ne_nil_of_right_ne_nil _ (List.cons_ne_nil _ _)
      rw [List.cons_append, List.intercalate_cons_of_ne_nil more, ih, List.flatMap_cons]

theorem toList_script (formula : Formula) :
    formula.script.toList = ['\n'].intercalate (formula.scriptLines ++ [[]]) := by
  rw [intercalate_lines]
  delta script scriptLines declaration declarationLine
  simp [List.flatMap_map]

theorem splitOn_script {formula : Formula}
    (named : ∀ name ∈ formula.names, isName name.toList = true) :
    formula.script.toList.splitOn '\n' = formula.scriptLines ++ [[]] := by
  have term : '\n' ∉ formula.smtlib.toList := by
    rw [toList_smtlib]
    apply newline_notMem_chars
    intro word member
    exact (isSymbolOf_of_mem_term formula member).newline_notMem named
  have declared : ∀ name ∈ formula.support, '\n' ∉ declarationLine name := by
    intro name member
    have symbol := newline_notMem_symbol (named name (mem_support.mp member))
    delta declarationLine
    simp [symbol]
  rw [toList_script]
  apply List.splitOn_intercalate '\n'
  · simp only [scriptLines, List.forall_mem_append, List.forall_mem_cons, List.forall_mem_map]
    refine ⟨⟨by decide, declared, ?_, by decide, ?_⟩, by decide, ?_⟩
    · simp [term]
    · exact List.forall_mem_nil _
    · exact List.forall_mem_nil _
  · exact List.append_ne_nil_of_right_ne_nil _ (List.cons_ne_nil _ _)

/-- Declared symbols are distinct, because bars are no part of a name. -/
theorem nodup_symbols {formula : Formula}
    (named : ∀ name ∈ formula.names, isName name.toList = true) :
    (formula.support.map symbol).Nodup := by
  have unbarred : ∀ name ∈ formula.support, '|' ∉ name.toList :=
    fun name member => notMem_of_isName (named name (mem_support.mp member)) rfl
  refine List.pairwise_map.mpr (formula.support_nodup.imp_of_mem ?_)
  intro left right leftDeclared rightDeclared different
  rw [ne_eq, symbol_inj (unbarred left leftDeclared) (unbarred right rightDeclared)]
  exact different

theorem readable_chars_iff {formula : Formula}
    (words : ∀ name ∈ formula.names, IsWord name.toList) (term : Term) :
    term.Readable ∧ term.chars = formula.smtlib.toList ↔ term = formula.term := by
  rw [toList_smtlib]
  constructor
  · rintro ⟨readable, same⟩
    exact chars_inj readable (readable_of_isWord formula words) same
  · rintro rfl
    exact ⟨readable_of_isWord formula words, rfl⟩

/-- A script of names that can be read as literals consists of the line for the logic, a declaration
of each variable in order, one assertion and the check. The declared symbols are distinct, the asserted
term can be read in one way and has no other symbols, and a symbol may be declared exactly if its name
starts with a digit or has no number sign and is not predefined. -/
theorem script_well_formed (formula : Formula)
    (accepted : ∀ name ∈ formula.names, parseLiteral? name = some (.var name)) :
    formula.script.toList.splitOn '\n' = formula.scriptLines ++ [[]] ∧
      formula.support.Pairwise (· < ·) ∧
      (∀ name, name ∈ formula.support ↔ name ∈ formula.names) ∧
      (formula.support.map symbol).Nodup ∧
      (∃ term : Term, (∀ other : Term,
          other.Readable ∧ other.chars = formula.smtlib.toList ↔ other = term) ∧
        ∀ word ∈ term.symbols, IsSymbolOf formula.support word) ∧
      ∀ name ∈ formula.support, isUserSymbol (symbol name).toList = true ↔
        name.toList.head?.any Char.isDigit = true ∨
          ('#' ∉ name.toList ∧ name.toList ∉ predefined) := by
  have named : ∀ name ∈ formula.names, isName name.toList = true :=
    fun name occurs => isName_of_parseLiteral? (accepted name occurs)
  have words : ∀ name ∈ formula.names, IsWord name.toList :=
    fun name occurs => isWord_of_isName (named name occurs)
  refine ⟨splitOn_script named, formula.support_increasing, fun name => mem_support,
    nodup_symbols named, ⟨formula.term, readable_chars_iff words, ?_⟩, ?_⟩
  · intro word member
    exact (isSymbolOf_of_mem_term formula member).mono fun name => mem_support.mpr
  · intro name member
    exact isUserSymbol_symbol_iff (named name (mem_support.mp member))

/-- Of its three names one is put in bars, one has a number sign and one is the word of an operator. -/
theorem script_well_formed_blunt :
    (∀ name ∈ blunt.names, parseLiteral? name = some (.var name)) ∧
      blunt.script.toList.splitOn '\n' = blunt.scriptLines ++ [[]] ∧
      blunt.support = ["#b.1", "3_0_t", "not"] ∧
      (blunt.support.map symbol).Nodup ∧
      ∀ name ∈ blunt.support, isUserSymbol (symbol name).toList = true ↔ name = "3_0_t" := by
  have accepted : ∀ name ∈ blunt.names, parseLiteral? name = some (.var name) := by
    decide +kernel
  obtain ⟨lines, _, _, distinct, _, _⟩ := script_well_formed blunt accepted
  exact ⟨accepted, lines, by decide +kernel, distinct, by decide +kernel⟩

/-- Names with a number sign and names of predefined symbols are read as literals, but declared as
symbols that a script may not declare. -/
theorem script_declares_foreign :
    parseLiteral? "x#1" = some (.var "x#1") ∧
      (script (.var "x#1")).toList.splitOn '\n' =
        ["(set-logic QF_UF)", "(declare-const x#1 Bool)", "(assert x#1)", "(check-sat)", ""].map
          String.toList ∧
      isUserSymbol (symbol "x#1").toList = false ∧
      parseLiteral? "true" = some (.var "true") ∧
      (script (.var "true")).toList.splitOn '\n' =
        ["(set-logic QF_UF)", "(declare-const true Bool)", "(assert true)", "(check-sat)", ""].map
          String.toList ∧
      isUserSymbol (symbol "true").toList = false := by
  decide +kernel

end Formula

end Trivalent
