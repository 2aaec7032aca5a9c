import Trivalent.Formula.Smtlib
import Trivalent.Proofs.Formula.Dependence
import Trivalent.Proofs.Text.Separator

/-!
How the text of a formula is read. A term is a symbol or an operator with its arguments, and its text
leaves no choice: behind a term there is the end, a blank or a bracket (`Term.chars_append_inj`). A
formula is written as the text of its term (`toList_smtlib`), and the term has the formula's value
(`eval_term`). So formulas with the same text have the same value.
-/

set_option autoImplicit false

namespace Trivalent

inductive Operator where
  | not
  | and
  | or
  | implies

namespace Operator

def chars : Operator → List Char
  | .not => ['n', 'o', 't']
  | .and => ['a', 'n', 'd']
  | .or => ['o', 'r']
  | .implies => ['=', '>']

/-- The value of an operator on the values of its arguments. -/
def value : Operator → List Bool → Bool
  | .not, [argument] => !argument
  | .and, arguments => arguments.all id
  | .or, arguments => arguments.any id
  | .implies, [premise, conclusion] => !premise || conclusion
  | _, _ => false

theorem chars_injective {left right : Operator} (same : left.chars = right.chars) :
    left = right := by
  cases left <;> cases right <;> simp [chars] at same ⊢

end Operator

inductive Term where
  | symbol (word : List Char)
  | app (operator : Operator) (arguments : List Term)

namespace Term

mutual

def chars : Term → List Char
  | .symbol word => word
  | .app operator arguments => '(' :: (operator.chars ++ argumentChars arguments)

/-- The arguments, each behind a blank, and the closing bracket. -/
def argumentChars : List Term → List Char
  | [] => [')']
  | argument :: rest => ' ' :: (chars argument ++ argumentChars rest)

end

def isDelimiter (char : Char) : Bool := char = ' ' || char = '(' || char = ')'

/-- A word can stand for itself in a text: it is not empty and has no delimiter in it. -/
structure IsWord (word : List Char) : Prop where
  nonempty : word ≠ []
  undelimited : ∀ char ∈ word, isDelimiter char = false

/-- Nothing or a delimiter comes next. -/
def Stops (rest : List Char) : Prop := ∀ char ∈ rest.head?, isDelimiter char = true

inductive Readable : Term → Prop where
  | symbol {word : List Char} : IsWord word → Readable (.symbol word)
  | app {operator : Operator} {arguments : List Term} :
      (∀ argument ∈ arguments, Readable argument) → Readable (.app operator arguments)

theorem stops_argumentChars (arguments : List Term) (rest : List Char) :
    Stops (argumentChars arguments ++ rest) := by
  cases arguments with
  | nil =>
      intro char first
      cases first
      rfl
  | cons argument others =>
      intro char first
      cases first
      rfl

theorem undelimited_of_all {word : List Char}
    (free : word.all (fun char => !isDelimiter char) = true) :
    ∀ char ∈ word, isDelimiter char = false := by
  intro char member
  exact (Bool.not_eq_true' _).mp (List.all_eq_true.mp free char member)

theorem operator_undelimited (operator : Operator) :
    ∀ char ∈ operator.chars, isDelimiter char = false := by
  apply undelimited_of_all
  cases operator <;> rfl

/-- No word starts with a bracket, so a symbol is never taken for an application. -/
theorem IsWord.append_ne_bracket {word : List Char} (isWord : IsWord word)
    (rest rest' : List Char) : word ++ rest ≠ '(' :: rest' := by
  intro same
  cases word with
  | nil => exact isWord.nonempty rfl
  | cons char word =>
      obtain ⟨rfl, _⟩ := List.cons.inj same
      cases isWord.undelimited '(' List.mem_cons_self

mutual

theorem chars_append_inj : ∀ (left right : Term) {rest rest' : List Char},
    left.Readable → right.Readable → Stops rest → Stops rest' →
      left.chars ++ rest = right.chars ++ rest' → left = right ∧ rest = rest'
  | .symbol word, .symbol other, rest, rest', .symbol leftWord, .symbol rightWord, stops, stops',
      same => by
      obtain ⟨rfl, rests⟩ := Text.append_inj_at leftWord.undelimited rightWord.undelimited
        stops stops' same
      exact ⟨rfl, rests⟩
  | .symbol word, .app _ _, rest, rest', .symbol leftWord, _, _, _, same =>
      absurd same (leftWord.append_ne_bracket _ _)
  | .app _ _, .symbol word, rest, rest', _, .symbol rightWord, _, _, same =>
      absurd same.symm (rightWord.append_ne_bracket _ _)
  | .app operator arguments, .app operator' arguments', rest, rest', .app leftReadable,
      .app rightReadable, _, _, same => by
      rw [chars, chars, List.cons_append, List.cons_append, List.append_assoc,
        List.append_assoc] at same
      obtain ⟨operators, bodies⟩ := Text.append_inj_at (operator_undelimited operator)
        (operator_undelimited operator') (stops_argumentChars arguments rest)
        (stops_argumentChars arguments' rest') (List.cons.inj same).2
      obtain ⟨rfl, rests⟩ :=
        argumentChars_append_inj arguments arguments' leftReadable rightReadable bodies
      rw [Operator.chars_injective operators]
      exact ⟨rfl, rests⟩

theorem argumentChars_append_inj : ∀ (left right : List Term) {rest rest' : List Char},
    (∀ argument ∈ left, argument.Readable) → (∀ argument ∈ right, argument.Readable) →
      argumentChars left ++ rest = argumentChars right ++ rest' → left = right ∧ rest = rest'
  | [], [], rest, rest', _, _, same => ⟨rfl, (List.cons.inj same).2⟩
  | [], _ :: _, rest, rest', _, _, same => by
      cases (List.cons.inj same).1
  | _ :: _, [], rest, rest', _, _, same => by
      cases (List.cons.inj same).1
  | first :: left, second :: right, rest, rest', leftReadable, rightReadable, same => by
      rw [argumentChars, argumentChars, List.cons_append, List.cons_append, List.append_assoc,
        List.append_assoc] at same
      obtain ⟨rfl, bodies⟩ := chars_append_inj first second
        (leftReadable first List.mem_cons_self) (rightReadable second List.mem_cons_self)
        (stops_argumentChars left rest) (stops_argumentChars right rest') (List.cons.inj same).2
      obtain ⟨rfl, rests⟩ := argumentChars_append_inj left right
        (fun argument member => leftReadable argument (List.mem_cons_of_mem _ member))
        (fun argument member => rightReadable argument (List.mem_cons_of_mem _ member)) bodies
      exact ⟨rfl, rests⟩

end

theorem chars_inj {left right : Term} (leftReadable : left.Readable) (rightReadable : right.Readable)
    (same : left.chars = right.chars) : left = right := by
  have stops : Stops [] := by
    intro char absent
    cases absent
  exact (chars_append_inj left right leftReadable rightReadable stops stops (by rw [same])).1

/-! ### Values of terms -/

/-- The name that a symbol stands for: bars around it are no part of it. -/
def unquoted : List Char → List Char
  | '|' :: rest => rest.dropLast
  | word => word

mutual

def eval (assignment : Assignment) : Term → Bool
  | .symbol word =>
      if word = ['t', 'r', 'u', 'e'] then true
      else if word = ['f', 'a', 'l', 's', 'e'] then false
      else assignment.read (String.ofList (unquoted word))
  | .app operator arguments => operator.value (evalEach assignment arguments)

def evalEach (assignment : Assignment) : List Term → List Bool
  | [] => []
  | argument :: rest => eval assignment argument :: evalEach assignment rest

end

end Term

/-! ### Terms of formulas -/

namespace Formula

open Term

def symbolTerm (name : String) : Term := .symbol (symbol name).toList

mutual

/-- The term that a formula is written as. -/
def term : Formula → Term
  | .const true => .symbol ['t', 'r', 'u', 'e']
  | .const false => .symbol ['f', 'a', 'l', 's', 'e']
  | .lit ⟨name, true⟩ => symbolTerm name
  | .lit ⟨name, false⟩ => .app .not [symbolTerm name]
  | .and [] => .symbol ['t', 'r', 'u', 'e']
  | .and [part] => term part
  | .and (first :: second :: rest) => .app .and (term first :: terms (second :: rest))
  | .or [] => .symbol ['f', 'a', 'l', 's', 'e']
  | .or [part] => term part
  | .or (first :: second :: rest) => .app .or (term first :: terms (second :: rest))
  | .not part => .app .not [term part]
  | .implies premise conclusion => .app .implies [term premise, term conclusion]

def terms : List Formula → List Term
  | [] => []
  | part :: rest => term part :: terms rest

end

mutual

theorem toList_smtlib : ∀ formula : Formula, formula.smtlib.toList = formula.term.chars
  | .const true => by simp [smtlib, term, chars]
  | .const false => by simp [smtlib, term, chars]
  | .lit ⟨name, true⟩ => by simp [smtlib, term, symbolTerm, chars]
  | .lit ⟨name, false⟩ => by
      simp [smtlib, term, symbolTerm, chars, argumentChars, Operator.chars]
  | .and [] => by simp [smtlib, term, chars]
  | .and [part] => by rw [smtlib, term, toList_smtlib part]
  | .and (first :: second :: rest) => by
      simp [smtlib, term, chars, argumentChars, Operator.chars, toList_smtlib first,
        ← toList_smtlibRest (second :: rest)]
  | .or [] => by simp [smtlib, term, chars]
  | .or [part] => by rw [smtlib, term, toList_smtlib part]
  | .or (first :: second :: rest) => by
      simp [smtlib, term, chars, argumentChars, Operator.chars, toList_smtlib first,
        ← toList_smtlibRest (second :: rest)]
  | .not part => by
      simp [smtlib, term, chars, argumentChars, Operator.chars, toList_smtlib part]
  | .implies premise conclusion => by
      simp [smtlib, term, chars, argumentChars, Operator.chars, toList_smtlib premise,
        toList_smtlib conclusion]

theorem toList_smtlibRest : ∀ parts : List Formula,
    (smtlibRest parts).toList ++ [')'] = argumentChars (terms parts)
  | [] => by simp [smtlibRest, terms, argumentChars]
  | part :: rest => by
      simp [smtlibRest, terms, argumentChars, toList_smtlib part, ← toList_smtlibRest rest]

end

/-! ### Symbols of names -/

theorem toList_symbol_of_digit {name : String}
    (digit : name.toList.head?.any Char.isDigit = true) :
    (symbol name).toList = '|' :: (name.toList ++ ['|']) := by
  simp [symbol, digit]

theorem toList_symbol_of_not_digit {name : String}
    (noDigit : name.toList.head?.any Char.isDigit = false) :
    (symbol name).toList = name.toList := by
  simp [symbol, noDigit]

theorem isWord_symbol {name : String} (isWord : IsWord name.toList) :
    IsWord (symbol name).toList := by
  cases digit : name.toList.head?.any Char.isDigit with
  | true =>
      rw [toList_symbol_of_digit digit]
      refine ⟨List.cons_ne_nil _ _, ?_⟩
      intro char member
      simp only [List.mem_cons, List.mem_append, List.not_mem_nil, or_false] at member
      rcases member with rfl | member | rfl
      · rfl
      · exact isWord.undelimited char member
      · rfl
  | false =>
      rw [toList_symbol_of_not_digit digit]
      exact isWord

/-- Bars around a name are told from the name if it has none of its own. -/
theorem unquoted_symbol {name : String} (unbarred : '|' ∉ name.toList) :
    unquoted (symbol name).toList = name.toList := by
  cases digit : name.toList.head?.any Char.isDigit with
  | true => rw [toList_symbol_of_digit digit, unquoted, List.dropLast_concat]
  | false =>
      rw [toList_symbol_of_not_digit digit]
      unfold unquoted
      split
      · rename_i rest barred
        rw [barred] at unbarred
        exact absurd List.mem_cons_self unbarred
      · rfl

/-! ### Plain names -/

/-- A name of letters, digits and the marks `_`, `.` and `#` that is not the word of a constant. -/
structure PlainName (name : String) : Prop where
  nonempty : name ≠ ""
  simple : ∀ char ∈ name.toList,
    char.isAlphanum = true ∨ char = '_' ∨ char = '.' ∨ char = '#'
  notTrue : name ≠ "true"
  notFalse : name ≠ "false"

namespace PlainName

instance (name : String) : Decidable (PlainName name) :=
  decidable_of_iff (name ≠ "" ∧
      name.toList.all (fun char =>
        decide (char.isAlphanum = true ∨ char = '_' ∨ char = '.' ∨ char = '#')) = true ∧
      name ≠ "true" ∧ name ≠ "false")
    ⟨fun ⟨nonempty, simple, notTrue, notFalse⟩ =>
        ⟨nonempty, fun char member => of_decide_eq_true (List.all_eq_true.mp simple char member),
          notTrue, notFalse⟩,
      fun plain =>
        ⟨plain.nonempty,
          List.all_eq_true.mpr fun char member => decide_eq_true (plain.simple char member),
          plain.notTrue, plain.notFalse⟩⟩

variable {name : String}

theorem not_mem_of_special (plain : PlainName name) {char : Char}
    (special : ¬(char.isAlphanum = true ∨ char = '_' ∨ char = '.' ∨ char = '#')) :
    char ∉ name.toList :=
  fun member => special (plain.simple char member)

theorem undelimited (plain : PlainName name) :
    ∀ char ∈ name.toList, isDelimiter char = false := by
  intro char member
  cases delimiter : isDelimiter char with
  | false => rfl
  | true =>
      simp only [isDelimiter, Bool.or_eq_true, decide_eq_true_eq] at delimiter
      rcases delimiter with (rfl | rfl) | rfl
      · exact absurd member (plain.not_mem_of_special (by decide))
      · exact absurd member (plain.not_mem_of_special (by decide))
      · exact absurd member (plain.not_mem_of_special (by decide))

theorem isWord (plain : PlainName name) : IsWord name.toList :=
  ⟨fun empty => plain.nonempty (String.toList_eq_nil_iff.mp empty), plain.undelimited⟩

theorem eval_symbolTerm (plain : PlainName name) (assignment : Assignment) :
    (symbolTerm name).eval assignment = assignment.read name := by
  have bare := unquoted_symbol (plain.not_mem_of_special (by decide))
  have notTrue : (symbol name).toList ≠ ['t', 'r', 'u', 'e'] := by
    intro same
    rw [same] at bare
    exact plain.notTrue (String.toList_inj.mp bare.symm)
  have notFalse : (symbol name).toList ≠ ['f', 'a', 'l', 's', 'e'] := by
    intro same
    rw [same] at bare
    exact plain.notFalse (String.toList_inj.mp bare.symm)
  rw [symbolTerm, Term.eval, if_neg notTrue, if_neg notFalse, bare, String.ofList_toList]

end PlainName

mutual

theorem readable_of_isWord : ∀ formula : Formula, (∀ name ∈ formula.names, IsWord name.toList) →
    formula.term.Readable
  | .const true, _ => .symbol ⟨List.cons_ne_nil _ _, undelimited_of_all rfl⟩
  | .const false, _ => .symbol ⟨List.cons_ne_nil _ _, undelimited_of_all rfl⟩
  | .lit ⟨name, true⟩, words => .symbol (isWord_symbol (words name List.mem_cons_self))
  | .lit ⟨name, false⟩, words => by
      apply Readable.app
      simp only [List.forall_mem_singleton]
      exact .symbol (isWord_symbol (words name List.mem_cons_self))
  | .and [], _ => .symbol ⟨List.cons_ne_nil _ _, undelimited_of_all rfl⟩
  | .and [part], words => all_readable_of_isWord [part] words _ List.mem_cons_self
  | .and (first :: second :: rest), words =>
      .app (all_readable_of_isWord (first :: second :: rest) words)
  | .or [], _ => .symbol ⟨List.cons_ne_nil _ _, undelimited_of_all rfl⟩
  | .or [part], words => all_readable_of_isWord [part] words _ List.mem_cons_self
  | .or (first :: second :: rest), words =>
      .app (all_readable_of_isWord (first :: second :: rest) words)
  | .not part, words => by
      apply Readable.app
      simp only [List.forall_mem_singleton]
      exact readable_of_isWord part words
  | .implies premise conclusion, words => by
      obtain ⟨premiseWords, conclusionWords⟩ := List.forall_mem_append.mp words
      apply Readable.app
      simp only [List.forall_mem_cons, List.not_mem_nil, false_implies, implies_true, and_true]
      exact ⟨readable_of_isWord premise premiseWords, readable_of_isWord conclusion conclusionWords⟩

theorem all_readable_of_isWord : ∀ parts : List Formula,
    (∀ name ∈ namesOfAll parts, IsWord name.toList) → ∀ term ∈ terms parts, term.Readable
  | [], _ => by
      intro term absent
      cases absent
  | part :: rest, words => by
      obtain ⟨partWords, restWords⟩ := List.forall_mem_append.mp words
      rw [terms, List.forall_mem_cons]
      exact ⟨readable_of_isWord part partWords, all_readable_of_isWord rest restWords⟩

end

theorem readable_term (formula : Formula) (plain : ∀ name ∈ formula.names, PlainName name) :
    formula.term.Readable :=
  readable_of_isWord formula fun name member => (plain name member).isWord

mutual

theorem eval_term (assignment : Assignment) : ∀ formula : Formula,
    (∀ name ∈ formula.names, PlainName name) →
      formula.term.eval assignment = formula.eval assignment
  | .const true, _ => rfl
  | .const false, _ => rfl
  | .lit ⟨name, true⟩, plain => by
      rw [term, (plain name List.mem_cons_self).eval_symbolTerm]
      simp [eval, Literal.holds, Assignment.read]
  | .lit ⟨name, false⟩, plain => by
      simp [term, Term.eval, Term.evalEach, Operator.value,
        (plain name List.mem_cons_self).eval_symbolTerm, eval, Literal.holds, Assignment.read]
  | .and [], _ => rfl
  | .and [part], plain => by
      obtain ⟨partPlain, _⟩ := List.forall_mem_append.mp plain
      rw [term, eval_term assignment part partPlain, eval, evalAll, evalAll, Bool.and_true]
  | .and (first :: second :: rest), plain => by
      rw [term, Term.eval, ← terms, evalEach_terms assignment (first :: second :: rest) plain, eval,
        evalAll_eq_all, Operator.value, List.all_map]
      rfl
  | .or [], _ => rfl
  | .or [part], plain => by
      obtain ⟨partPlain, _⟩ := List.forall_mem_append.mp plain
      rw [term, eval_term assignment part partPlain, eval, evalAny, evalAny, Bool.or_false]
  | .or (first :: second :: rest), plain => by
      rw [term, Term.eval, ← terms, evalEach_terms assignment (first :: second :: rest) plain, eval,
        evalAny_eq_any, Operator.value, List.any_map]
      rfl
  | .not part, plain => by
      rw [term, Term.eval, Term.evalEach, Term.evalEach, eval_term assignment part plain, eval,
        Operator.value]
  | .implies premise conclusion, plain => by
      obtain ⟨premisePlain, conclusionPlain⟩ := List.forall_mem_append.mp plain
      rw [term, Term.eval, Term.evalEach, Term.evalEach, Term.evalEach,
        eval_term assignment premise premisePlain, eval_term assignment conclusion conclusionPlain,
        eval, Operator.value]

theorem evalEach_terms (assignment : Assignment) : ∀ parts : List Formula,
    (∀ name ∈ namesOfAll parts, PlainName name) →
      Term.evalEach assignment (terms parts) = parts.map (eval assignment)
  | [], _ => rfl
  | part :: rest, plain => by
      obtain ⟨partPlain, restPlain⟩ := List.forall_mem_append.mp plain
      rw [terms, Term.evalEach, List.map_cons, eval_term assignment part partPlain,
        evalEach_terms assignment rest restPlain]

end

/-- Texts are unambiguous: formulas with plain names that are written alike have the same value under
every assignment. -/
theorem smtlib_unambiguous {left right : Formula}
    (leftPlain : ∀ name ∈ left.names, PlainName name)
    (rightPlain : ∀ name ∈ right.names, PlainName name) (same : left.smtlib = right.smtlib)
    (assignment : Assignment) : left.eval assignment = right.eval assignment := by
  have texts : left.term.chars ++ [] = right.term.chars ++ [] := by
    rw [List.append_nil, List.append_nil, ← toList_smtlib, ← toList_smtlib, same]
  have stops : Stops [] := by
    intro char absent
    cases absent
  obtain ⟨terms, _⟩ := chars_append_inj left.term right.term (readable_term left leftPlain)
    (readable_term right rightPlain) stops stops texts
  rw [← eval_term assignment left leftPlain, terms, eval_term assignment right rightPlain]

/-- Different trees can be written alike: parts that say nothing leave no mark, and the sign of a
literal looks like a negation. -/
def blunt : Formula :=
  .and [.or [], .not (.var "3_0_t"), .implies (.and [.var "not"]) (.var "#b.1")]

def terse : Formula :=
  .and [.const false, .lit ⟨"3_0_t", false⟩, .implies (.var "not") (.or [.var "#b.1"])]

theorem smtlib_unambiguous_merged :
    blunt ≠ terse ∧ blunt.smtlib = terse.smtlib ∧
      ∀ assignment, blunt.eval assignment = terse.eval assignment := by
  have same : blunt.smtlib = terse.smtlib := by decide +kernel
  refine ⟨by decide +kernel, same, ?_⟩
  exact smtlib_unambiguous (by decide +kernel) (by decide +kernel) same

end Formula

end Trivalent
