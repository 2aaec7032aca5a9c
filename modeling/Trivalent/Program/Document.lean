import Trivalent.Json.Basic
import Trivalent.Json.Reader.Record
import Trivalent.Program

/-!
Programs as documents: `toJson` writes one and `ofText` reads one. The processes must be there, the
predicates may be left out.
-/

set_option autoImplicit false

namespace Trivalent

open Json

namespace Process

def toJson (process : Process) : Json :=
  .obj [("name", .str process.name), ("locations", .num process.locations.toNat)]

def fields : List (Reader.Field Process) :=
  [⟨"name", true, fun process => return { process with name := ← Reader.string }⟩,
    ⟨"locations", true, fun process => return { process with locations := ← Reader.word }⟩]

def reader : Reader Process := Reader.record fields ⟨"", 0⟩

end Process

namespace PredicateTable

def toJson (table : PredicateTable) : Json :=
  .obj (table.entries.map fun entry => (entry.1, .num entry.2.toNat))

/-- A name given twice keeps its first place and takes the last id. -/
def reader : Reader PredicateTable :=
  Reader.table
    (fun name table => do
      Reader.colon
      return table.insert name (← Reader.word))
    .empty

end PredicateTable

namespace Program

def toJson (program : Program) : Json :=
  .obj [("processes", .arr (program.processes.map Process.toJson)),
    ("predicates", program.predicates.toJson)]

def fields : List (Reader.Field Program) :=
  [⟨"processes", true, fun program =>
      return { program with processes := ← Reader.list Process.reader }⟩,
    ⟨"predicates", false, fun program =>
      return { program with predicates := ← PredicateTable.reader }⟩]

def reader : Reader Program := Reader.record fields {}

def ofText (text : String) : Except DocumentFault Program := Reader.document reader text

end Program

end Trivalent
