import Trivalent.Formula.Basic
import Trivalent.Text.Blank

/-!
Reading a formula of one literal: one of the two constants, or a name that may stand behind a tilde.
-/

set_option autoImplicit false

namespace Trivalent.Formula

/-- The characters of names: ASCII letters and digits, underscore, point and number sign. -/
def isNameChar (char : Char) : Bool :=
  char.isAlphanum || char == '_' || char == '.' || char == '#'

def isName (chars : List Char) : Bool :=
  !chars.isEmpty && chars.all isNameChar

/-- Read a constant or a literal, with blanks allowed around it and behind the tilde. -/
def parseLiteral? (text : String) : Option Formula :=
  let body := Text.trim text.toList
  if body = "$true".toList then some (.const true)
  else if body = "$false".toList then some (.const false)
  else
    let (polarity, name) := match body with
      | '~' :: rest => (false, Text.trimStart rest)
      | name => (true, name)
    if isName name then some (.lit ⟨String.ofList name, polarity⟩) else none

end Trivalent.Formula
