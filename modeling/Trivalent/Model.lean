import Trivalent.Json.Basic
import Trivalent.Literal

/-!
Models: the sets of literals that an oracle offers for a satisfiable formula. Nothing stops a model
from holding a variable in both signs or in none; then `value` reads it as true or leaves it open.
-/

set_option autoImplicit false

namespace Trivalent

structure Model where
  literals : OrderedSet Literal
  deriving DecidableEq

namespace Model

def empty : Model := ⟨OrderedSet.empty⟩

instance : Inhabited Model := ⟨empty⟩

def ofList (literals : List Literal) : Model := ⟨OrderedSet.ofList literals⟩

def insert (model : Model) (literal : Literal) : Model := ⟨model.literals.insert literal⟩

/-- The literals by name, of one name the negative one first. -/
def toList (model : Model) : List Literal := model.literals.toList

def size (model : Model) : Nat := model.toList.length

def contains (model : Model) (name : String) (polarity : Bool) : Bool :=
  decide ((⟨name, polarity⟩ : Literal) ∈ model.literals)

def isTrue (model : Model) (name : String) : Bool := model.contains name true

def isFalse (model : Model) (name : String) : Bool := model.contains name false

/-- The value of a variable; the positive literal wins over the negative one. -/
def value (model : Model) : Assignment := fun name =>
  if model.isTrue name then some true
  else if model.isFalse name then some false
  else none

def toJson (model : Model) : Json :=
  .obj [("literals", .arr (model.toList.map fun literal =>
    .obj [("name", .str literal.name), ("polarity", .bool literal.polarity)]))]

theorem contains_ofList {literals : List Literal} {name : String} {polarity : Bool} :
    (ofList literals).contains name polarity = true ↔ (⟨name, polarity⟩ : Literal) ∈ literals := by
  simp [contains, ofList, OrderedSet.mem_ofList]

theorem contains_insert {model : Model} {literal : Literal} {name : String} {polarity : Bool} :
    (model.insert literal).contains name polarity = true ↔
      (⟨name, polarity⟩ : Literal) = literal ∨ model.contains name polarity = true := by
  simp [contains, insert, OrderedSet.mem_insert]

end Model

end Trivalent
