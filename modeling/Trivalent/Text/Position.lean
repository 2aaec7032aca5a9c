import Trivalent.Text.Numeral

/-!
Positions that messages end in. A message may say in its last words at which line and column of a
text something is wrong; `Position.split` takes these words off, and `Position.text` writes them.
-/

set_option autoImplicit false

namespace Trivalent

/-- A place in a text. Lines count from 1, and line 0 means that no place is known. -/
structure Position where
  line : Nat := 0
  column : Nat := 0
  deriving DecidableEq, Inhabited

namespace Position

def lineMark : List Char := " at line ".toList

def columnMark : List Char := " column ".toList

/-- The last words of a message about this place: none for an unknown one. -/
def text (position : Position) : String :=
  if position.line = 0 then ""
  else s!" at line {position.line} column {position.column}"

/-- Divide characters at the last occurrence of a nonempty mark into those before and those after. -/
def splitLast (mark : List Char) : List Char → Option (List Char × List Char)
  | [] => none
  | c :: rest =>
      match splitLast mark rest with
      | some (before, after) => some (c :: before, after)
      | none =>
          if mark.isPrefixOf (c :: rest) then some ([], (c :: rest).drop mark.length) else none

/-- Read what follows `lineMark`: a line, `columnMark` and a column, and nothing more. Both numbers
are words and may have leading zeros. -/
def parse? (chars : List Char) : Option Position :=
  let line := chars.takeWhile Char.isDigit
  let rest := chars.dropWhile Char.isDigit
  if columnMark.isPrefixOf rest then do
    let line ← Numeral.word? line
    let column ← Numeral.word? (rest.drop columnMark.length)
    return ⟨line, column⟩
  else none

/-- Take a position off the end of a message. Only the last `lineMark` counts; a message that does
not end in a position there stays whole. -/
def split (message : String) : String × Position :=
  let found := do
    let (before, after) ← splitLast lineMark message.toList
    let position ← parse? after
    return (String.ofList before, position)
  found.getD (message, {})

end Position

end Trivalent
