import Trivalent.Formula.Basic

/-!
Formulas as SMT-LIB terms, and the script that asks whether a formula can be satisfied.
-/

set_option autoImplicit false

namespace Trivalent.Formula

/-- A name as a symbol. A name that starts with a digit is no simple symbol and is put in bars. -/
def symbol (name : String) : String :=
  if (name.toList.head?.any Char.isDigit) then "|" ++ name ++ "|" else name

mutual

/-- The term of a formula. A conjunction or disjunction of one part is written as that part. -/
def smtlib : Formula → String
  | .const value => if value then "true" else "false"
  | .lit literal =>
      if literal.polarity then symbol literal.name else "(not " ++ symbol literal.name ++ ")"
  | .and [] => "true"
  | .and [part] => smtlib part
  | .and (first :: second :: rest) =>
      "(and " ++ smtlib first ++ smtlibRest (second :: rest) ++ ")"
  | .or [] => "false"
  | .or [part] => smtlib part
  | .or (first :: second :: rest) =>
      "(or " ++ smtlib first ++ smtlibRest (second :: rest) ++ ")"
  | .not part => "(not " ++ smtlib part ++ ")"
  | .implies premise conclusion => "(=> " ++ smtlib premise ++ " " ++ smtlib conclusion ++ ")"

/-- Further terms, each behind a space. -/
def smtlibRest : List Formula → String
  | [] => ""
  | part :: rest => " " ++ smtlib part ++ smtlibRest rest

end

def declaration (name : String) : String :=
  "(declare-const " ++ symbol name ++ " Bool)\n"

/-- The script that declares every variable once, asserts the formula and checks it. -/
def script (formula : Formula) : String :=
  "(set-logic QF_UF)\n" ++ String.join (formula.support.map declaration) ++
    "(assert " ++ formula.smtlib ++ ")\n(check-sat)\n"

end Trivalent.Formula
