import Trivalent.Program.Document
import Trivalent.Proofs.Json.Containers
import Trivalent.Proofs.Program.Declarations
import Trivalent.Settings.Document

/-!
Documents read back from the texts they are written as: programs, property options and settings.
-/

set_option autoImplicit false

namespace Trivalent

open Json Reader

theorem Process.restores : Restores Process.reader Process.toJson := by
  intro process rest _
  refine record_fills (by decide) ?_ rest
  refine .cons (fun ahead delimited => bind_ok (string_restores process.name ahead delimited)) ?_
  refine .cons (fun ahead delimited => bind_ok (word_restores process.locations ahead delimited)) ?_
  exact .nil process

namespace PredicateTable

theorem ext_entries {left right : PredicateTable} (same : left.entries = right.entries) :
    left = right := by
  cases left
  cases right
  cases same
  rfl

theorem takes_entries {after : PredicateTable} {entries : List (String × UInt64)}
    (before : PredicateTable) (whole : after.entries = before.entries ++ entries) :
    Takes (fun name table => do
        Reader.colon
        return table.insert name (← Reader.word))
      (entries.map fun entry => (entry.1, .num entry.2.toNat)) before after := by
  induction entries generalizing before with
  | nil =>
      have same : after = before := ext_entries (by rw [whole, List.append_nil])
      rw [same]
      exact .nil before
  | cons entry rest ih =>
      obtain ⟨name, id⟩ := entry
      have distinct := after.distinct
      rw [whole, List.map_append, List.map_cons] at distinct
      have fresh : name ∉ before.entries.map Prod.fst := by
        intro member
        exact (List.nodup_append.mp distinct).2.2 name member name List.mem_cons_self rfl
      have grown : (before.insert name id).entries = before.entries ++ [(name, id)] :=
        put_of_notMem fresh id
      have later := ih (before.insert name id) (by
        rw [grown, whole, List.append_assoc, List.singleton_append])
      refine .cons ?_ later
      intro ahead delimited
      exact (bind_ok (colon_cons _)).trans (bind_ok (word_restores id ahead delimited))

theorem restores : Restores PredicateTable.reader PredicateTable.toJson := by
  intro table rest _
  exact table_takes (takes_entries .empty (List.nil_append table.entries).symm) rest

end PredicateTable

theorem Program.restores : Restores Program.reader Program.toJson := by
  intro program rest _
  refine record_fills (by decide) ?_ rest
  refine .cons (fun ahead delimited =>
    bind_ok (list_restores Process.restores program.processes ahead delimited)) ?_
  refine .cons (fun ahead delimited =>
    bind_ok (PredicateTable.restores program.predicates ahead delimited)) ?_
  exact .nil program

theorem Property.restores : Restores Property.reader Property.toJson := by
  intro property rest _
  refine record_fills (by decide) ?_ rest
  refine .cons (fun ahead delimited => bind_ok (bool_restores property.fairness ahead delimited)) ?_
  refine .cons (fun ahead delimited => bind_ok (bool_restores property.multiModel ahead delimited)) ?_
  refine .cons (fun ahead delimited => bind_ok (bool_restores property.doubleTest ahead delimited)) ?_
  exact .nil property

namespace Settings

theorem restores : Restores Settings.reader Settings.toJson := by
  intro settings rest _
  refine record_fills (by decide) ?_ rest
  refine .cons (fun ahead delimited => bind_ok (word_restores settings.bound ahead delimited)) ?_
  refine .cons (fun ahead delimited => bind_ok (word_restores settings.startFrom ahead delimited)) ?_
  refine .cons (fun ahead delimited => bind_ok (word_restores settings.timeoutSecs ahead delimited)) ?_
  refine .cons (fun ahead delimited =>
    bind_ok (word_restores settings.maxRefinements ahead delimited)) ?_
  refine .cons (fun ahead delimited =>
    bind_ok (optional_string_restores settings.dumpQueries ahead delimited)) ?_
  exact .nil settings

theorem validate_cases (settings : Settings) :
    settings.validate = .ok () ∨ ∃ cause, settings.validate = .error (.configuration cause) := by
  unfold validate
  split
  · exact Or.inr ⟨_, rfl⟩
  · split
    · exact Or.inr ⟨_, rfl⟩
    · exact Or.inl rfl

theorem ofText_compact (settings : Settings) :
    ofText settings.toJson.compact = do
      settings.validate
      return settings := by
  rw [ofText, document_restores restores settings]

end Settings

/-- Documents survive being written and read. Settings that are not valid are read too, and refused
only for the reason that makes them invalid. -/
theorem documents_round_trip :
    (∀ program : Program, Program.ofText program.toJson.compact = .ok program) ∧
      (∀ property : Property, Property.ofText property.toJson.compact = .ok property) ∧
      ∀ settings : Settings,
        (settings.validate = .ok () ∧ Settings.ofText settings.toJson.compact = .ok settings) ∨
          ∃ cause, settings.validate = .error (.configuration cause) ∧
            Settings.ofText settings.toJson.compact = .error (.configuration cause) := by
  refine ⟨document_restores Program.restores, document_restores Property.restores, ?_⟩
  intro settings
  rw [Settings.ofText_compact]
  rcases settings.validate_cases with valid | ⟨cause, invalid⟩
  · rw [valid]
    exact Or.inl ⟨rfl, rfl⟩
  · rw [invalid]
    exact Or.inr ⟨cause, rfl, rfl⟩

end Trivalent
