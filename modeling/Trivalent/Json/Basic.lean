/-!
JSON values and their texts: `compact` without any blanks, `pretty` with one entry per line and an
indent of two. Fields keep their order. Strings escape the quote, the backslash and control
characters, and nothing else.
-/

set_option autoImplicit false

namespace Trivalent

inductive Json where
  | null
  | bool (value : Bool)
  | num (value : Nat)
  | str (value : String)
  | arr (items : List Json)
  | obj (fields : List (String × Json))
  deriving Inhabited

namespace Json

/-- A digit of a four-digit escape, in lower case. -/
def hexDigit (value : Nat) : Char := Nat.digitChar (value % 16)

/-- A character inside quotes. Five control characters have a letter, the others a number. -/
def escapeChar (char : Char) : List Char :=
  if char = '"' then ['\\', '"']
  else if char = '\\' then ['\\', '\\']
  else if char = '\x08' then ['\\', 'b']
  else if char = '\t' then ['\\', 't']
  else if char = '\n' then ['\\', 'n']
  else if char = '\x0c' then ['\\', 'f']
  else if char = '\r' then ['\\', 'r']
  else if char.toNat < 0x20 then
    ['\\', 'u', '0', '0', hexDigit (char.toNat / 16), hexDigit char.toNat]
  else [char]

def quote (text : String) : String :=
  String.ofList ('"' :: (text.toList.flatMap escapeChar ++ ['"']))

mutual

/-- The text without blanks. -/
def compact : Json → String
  | .null => "null"
  | .bool value => if value then "true" else "false"
  | .num value => value.repr
  | .str value => quote value
  | .arr [] => "[]"
  | .arr (item :: rest) => "[" ++ compact item ++ compactItems rest ++ "]"
  | .obj [] => "\x7b\x7d"
  | .obj (field :: rest) => "\x7b" ++ compactField field ++ compactFields rest ++ "\x7d"

/-- Further items, each behind a comma. -/
def compactItems : List Json → String
  | [] => ""
  | item :: rest => "," ++ compact item ++ compactItems rest

def compactField : String × Json → String
  | (key, value) => quote key ++ ":" ++ compact value

/-- Further fields, each behind a comma. -/
def compactFields : List (String × Json) → String
  | [] => ""
  | field :: rest => "," ++ compactField field ++ compactFields rest

end

/-- A line break and the indent of a depth. -/
def newline (depth : Nat) : String :=
  String.ofList ('\n' :: List.replicate (2 * depth) ' ')

mutual

/-- The text with one entry per line, inside `depth` brackets. -/
def prettyAt (depth : Nat) : Json → String
  | .null => "null"
  | .bool value => if value then "true" else "false"
  | .num value => value.repr
  | .str value => quote value
  | .arr [] => "[]"
  | .arr (item :: rest) =>
      "[" ++ newline (depth + 1) ++ prettyAt (depth + 1) item ++ prettyItems (depth + 1) rest ++
        newline depth ++ "]"
  | .obj [] => "\x7b\x7d"
  | .obj (field :: rest) =>
      "\x7b" ++ newline (depth + 1) ++ prettyField (depth + 1) field ++
        prettyFields (depth + 1) rest ++ newline depth ++ "\x7d"

def prettyItems (depth : Nat) : List Json → String
  | [] => ""
  | item :: rest => "," ++ newline depth ++ prettyAt depth item ++ prettyItems depth rest

def prettyField (depth : Nat) : String × Json → String
  | (key, value) => quote key ++ ": " ++ prettyAt depth value

def prettyFields (depth : Nat) : List (String × Json) → String
  | [] => ""
  | field :: rest => "," ++ newline depth ++ prettyField depth field ++ prettyFields depth rest

end

def pretty (json : Json) : String := prettyAt 0 json

/-- The value of an optional entry; a missing one is null. -/
def ofOption {α : Type} (encode : α → Json) : Option α → Json
  | some value => encode value
  | none => .null

end Json

end Trivalent
