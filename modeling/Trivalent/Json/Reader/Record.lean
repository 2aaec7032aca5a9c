import Trivalent.Json.Reader.Number
import Trivalent.Json.Reader.Skip

/-!
Reading values of a given kind: scalars, lists, tables with free keys and records with known fields.
A whole document is one value with nothing but blanks behind it.
-/

set_option autoImplicit false

namespace Trivalent.Json

namespace Reader

variable {α β : Type}

/-! ### Scalars -/

/-- A value of another kind. A scalar is read to its end, a list or an object is refused where it
begins. -/
def otherKind : Reader α := do
  match ← peek with
  | none => fault .ended
  | some '[' => fault .mismatched
  | some '\x7b' => fault .mismatched
  | some 'n' => advance; letters "ull".toList; fault .mismatched
  | some 't' => advance; letters "rue".toList; fault .mismatched
  | some 'f' => advance; letters "alse".toList; fault .mismatched
  | some '"' => advance; let _ ← stringTail; fault .mismatched
  | some '-' => advance; let _ ← number; fault .mismatched
  | some char =>
      if char.isDigit then do let _ ← number; fault .mismatched
      else fault .malformed

def word : Reader UInt64 := do
  match ← peek with
  | none => fault .ended
  | some char =>
      if char.isDigit then
        match ← number with
        | some value => return UInt64.ofNat value
        | none => fault .mismatched
      else otherKind

def bool : Reader Bool := do
  match ← peek with
  | some 't' => advance; letters "rue".toList; return true
  | some 'f' => advance; letters "alse".toList; return false
  | _ => otherKind

def string : Reader String := do
  match ← peek with
  | some '"' => advance; stringTail
  | _ => otherKind

/-- Null, or a value of the given kind. -/
def optional (item : Reader α) : Reader (Option α) := do
  match ← peek with
  | some 'n' => advance; letters "ull".toList; return none
  | _ => return some (← item)

/-! ### Lists, objects and records -/

/-- Whether another item of a list is ahead. A comma before it is taken. -/
def nextItem (first : Bool) : Reader Bool := do
  match ← peek with
  | none => fault .ended
  | some ']' => return false
  | some ',' =>
      if first then return true
      else
        advance
        match ← peek with
        | none => fault .ended
        | some ']' => fault .malformed
        | some _ => return true
  | some _ => if first then return true else fault .malformed

/-- The end of a list. -/
def closeList : Reader Unit := do
  match ← peek with
  | none => fault .ended
  | some ']' => advance
  | some _ => fault .malformed

def itemsFrom (item : Reader α) : Nat → Bool → Reader (List α)
  | 0, _ => fault .ended
  | fuel + 1, first => do
      if ← nextItem first then
        let value ← item
        return value :: (← itemsFrom item fuel false)
      else
        closeList
        return []

def list (item : Reader α) : Reader (List α) := do
  match ← peek with
  | some '[' =>
      advance
      itemsFrom item (← remaining) true
  | _ => otherKind

/-- Whether another key of an object is ahead. Its opening quote is taken, or the end of the object. -/
def nextKey (first : Bool) : Reader Bool := do
  match ← peek with
  | none => fault .ended
  | some '\x7d' => advance; return false
  | some ',' =>
      if first then fault .malformed
      else
        advance
        match ← peek with
        | none => fault .ended
        | some '"' => advance; return true
        | some _ => fault .malformed
  | some '"' => if first then do advance; return true else fault .malformed
  | some _ => fault .malformed

/-- The members of an object, taken into a value one by one. -/
def membersFrom (take : String → β → Reader β) : Nat → Bool → β → Reader β
  | 0, _, _ => fault .ended
  | fuel + 1, first, value => do
      if ← nextKey first then
        let key ← stringTail
        membersFrom take fuel false (← take key value)
      else return value

def members (take : String → β → Reader β) (start : β) : Reader β := do
  advance
  membersFrom take (← remaining) true start

/-- An object whose keys are free. -/
def table (take : String → β → Reader β) (start : β) : Reader β := do
  match ← peek with
  | some '\x7b' => members take start
  | _ => otherKind

/-- A field of a record: how its value is read into the record, and whether it may be left out. -/
structure Field (α : Type) where
  name : String
  required : Bool
  read : α → Reader α

/-- A member of a record with the names of the fields seen so far. A field stands once; other members
do not matter. -/
def takeField (fields : List (Field α)) (key : String) (state : α × List String) :
    Reader (α × List String) := do
  match fields.find? (·.name = key) with
  | some field =>
      if key ∈ state.2 then fault .mismatched
      else
        colon
        return (← field.read state.1, key :: state.2)
  | none =>
      colon
      anyValue
      return state

/-- The fields in order, as items of a list. -/
def fieldItems : List (Field α) → Bool → α → Reader α
  | [], _, value => do
      closeList
      return value
  | field :: rest, first, value => do
      if ← nextItem first then fieldItems rest false (← field.read value)
      else if (field :: rest).any (·.required) then fault .mismatched
      else
        closeList
        return value

/-- A record, as an object of its fields or as the list of their values. -/
def record (fields : List (Field α)) (blank : α) : Reader α := do
  match ← peek with
  | some '\x7b' =>
      let (value, seen) ← members (takeField fields) (blank, [])
      if fields.any fun field => field.required && !seen.contains field.name then
        fault .mismatched
      else return value
  | some '[' =>
      advance
      fieldItems fields true blank
  | _ => otherKind

/-- A whole document: one value with nothing but blanks behind it. -/
def document (value : Reader α) (text : String) : Except DocumentFault α := do
  let (result, ahead) ← value text.toList
  if ahead.all isSpace then .ok result else .error .malformed

end Reader

end Trivalent.Json
