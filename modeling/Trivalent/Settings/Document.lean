import Trivalent.Json.Basic
import Trivalent.Json.Reader.Record
import Trivalent.Settings

/-!
Property options and settings as documents. Every field may be left out and then has its default.
Settings that are read are validated too.
-/

set_option autoImplicit false

namespace Trivalent

open Json

namespace Property

def toJson (property : Property) : Json :=
  .obj [("fairness_on", .bool property.fairness), ("multi_model", .bool property.multiModel),
    ("double_test", .bool property.doubleTest)]

def fields : List (Reader.Field Property) :=
  [⟨"fairness_on", false, fun property => return { property with fairness := ← Reader.bool }⟩,
    ⟨"multi_model", false, fun property => return { property with multiModel := ← Reader.bool }⟩,
    ⟨"double_test", false, fun property => return { property with doubleTest := ← Reader.bool }⟩]

def reader : Reader Property := Reader.record fields {}

def ofText (text : String) : Except DocumentFault Property := Reader.document reader text

end Property

namespace Settings

def toJson (settings : Settings) : Json :=
  .obj [("bound", .num settings.bound.toNat), ("start_from", .num settings.startFrom.toNat),
    ("timeout_secs", .num settings.timeoutSecs.toNat),
    ("max_refinements", .num settings.maxRefinements.toNat),
    ("dump_queries", Json.ofOption .str settings.dumpQueries)]

def fields : List (Reader.Field Settings) :=
  [⟨"bound", false, fun settings => return { settings with bound := ← Reader.word }⟩,
    ⟨"start_from", false, fun settings => return { settings with startFrom := ← Reader.word }⟩,
    ⟨"timeout_secs", false, fun settings => return { settings with timeoutSecs := ← Reader.word }⟩,
    ⟨"max_refinements", false, fun settings =>
      return { settings with maxRefinements := ← Reader.word }⟩,
    ⟨"dump_queries", false, fun settings =>
      return { settings with dumpQueries := ← Reader.optional Reader.string }⟩]

def reader : Reader Settings := Reader.record fields {}

/-- Read settings and validate them. -/
def ofText (text : String) : Except CheckError Settings :=
  match Reader.document reader text with
  | .error fault => .error (.document (.ofFault fault))
  | .ok settings => do
      settings.validate
      return settings

end Settings

end Trivalent
