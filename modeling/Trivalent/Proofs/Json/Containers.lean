import Trivalent.Proofs.Json.Scalars

/-!
Lists, tables and records read back from their texts. Each loop of a reader takes the entries of the
text one by one, and there are never more of them than characters. A record that is written with its
fields in order has every field once, so none of them is missing and none comes again.
-/

set_option autoImplicit false

namespace Trivalent.Json

/-! ### Texts of lists and objects -/

theorem toList_compact_arr (item : Json) (rest : List Json) :
    (arr (item :: rest)).compact.toList =
      '[' :: (item.compact.toList ++ ((compactItems rest).toList ++ [']'])) := by
  simp [compact]

theorem toList_compactItems (item : Json) (rest : List Json) :
    (compactItems (item :: rest)).toList =
      ',' :: (item.compact.toList ++ (compactItems rest).toList) := by
  simp [compactItems]

theorem toList_compactField (key : String) (value : Json) :
    (compactField (key, value)).toList =
      '"' :: (key.toList.flatMap escapeChar ++ '"' :: ':' :: value.compact.toList) := by
  simp [compactField, toList_quote]

theorem toList_compact_obj (field : String × Json) (rest : List (String × Json)) :
    (obj (field :: rest)).compact.toList =
      '\x7b' :: ((compactField field).toList ++ ((compactFields rest).toList ++ ['\x7d'])) := by
  simp [compact]

theorem toList_compactFields (field : String × Json) (rest : List (String × Json)) :
    (compactFields (field :: rest)).toList =
      ',' :: ((compactField field).toList ++ (compactFields rest).toList) := by
  simp [compactFields]

theorem compact_obj_open (fields : List (String × Json)) :
    ∃ others, (obj fields).compact.toList = '\x7b' :: others := by
  cases fields with
  | nil => exact ⟨['\x7d'], by rw [compact]; rfl⟩
  | cons field rest => exact ⟨_, toList_compact_obj field rest⟩

theorem length_le_length_items (items : List Json) :
    items.length ≤ (compactItems items).toList.length := by
  induction items with
  | nil => exact Nat.zero_le _
  | cons item rest ih =>
      rw [toList_compactItems, List.length_cons, List.length_cons, List.length_append]
      omega

theorem length_le_length_fields (fields : List (String × Json)) :
    fields.length ≤ (compactFields fields).toList.length := by
  induction fields with
  | nil => exact Nat.zero_le _
  | cons field rest ih =>
      rw [toList_compactFields, List.length_cons, List.length_cons, List.length_append]
      omega

namespace Reader

variable {α β : Type}

theorem delimited_items (items : List Json) (rest : List Char) :
    Delimited ((compactItems items).toList ++ ']' :: rest) := by
  intro char first
  cases items with
  | nil =>
      rw [compactItems] at first
      cases first
      exact Or.inr (Or.inl rfl)
  | cons item others =>
      rw [toList_compactItems] at first
      cases first
      exact Or.inl rfl

theorem delimited_fields (fields : List (String × Json)) (rest : List Char) :
    Delimited ((compactFields fields).toList ++ '\x7d' :: rest) := by
  intro char first
  cases fields with
  | nil =>
      rw [compactFields] at first
      cases first
      exact Or.inr (Or.inr rfl)
  | cons field others =>
      rw [toList_compactFields] at first
      cases first
      exact Or.inl rfl

/-! ### Lists -/

private theorem pure_ok {reader : Reader α} {value : α} (idle : reader = pure value)
    (chars : List Char) : reader chars = .ok (value, chars) := by
  rw [idle]
  rfl

theorem nextItem_first (json : Json) (rest : List Char) :
    nextItem true (json.compact.toList ++ rest) = .ok (true, json.compact.toList ++ rest) := by
  obtain ⟨char, others, text, visible, notClosing⟩ := compact_head json
  rw [text, List.cons_append, nextItem, bind_ok (peek_cons visible _), if_pos rfl]
  apply pure_ok
  split
  · rename_i absent
    cases absent
  · rename_i closing
    exact absurd (Option.some.inj closing) notClosing
  · rfl
  · rfl

theorem nextItem_later (json : Json) (rest : List Char) :
    nextItem false (',' :: (json.compact.toList ++ rest)) =
      .ok (true, json.compact.toList ++ rest) := by
  obtain ⟨char, others, text, visible, notClosing⟩ := compact_head json
  rw [text, List.cons_append, nextItem, bind_ok (peek_cons rfl _)]
  refine (bind_ok (advance_cons ',' _)).trans ?_
  rw [bind_ok (peek_cons visible _)]
  apply pure_ok
  split
  · rename_i absent
    cases absent
  · rename_i closing
    exact absurd (Option.some.inj closing) notClosing
  · rfl

theorem list_open (reader : Reader α) (chars : List Char) :
    list reader ('[' :: chars) = itemsFrom reader chars.length true chars :=
  rfl

section Lists

variable {reader : Reader α} {encode : α → Json} (restores : Restores reader encode)
include restores

theorem itemsFrom_later (values : List α) (rest : List Char) (fuel : Nat)
    (enough : values.length < fuel) :
    itemsFrom reader fuel false ((compactItems (values.map encode)).toList ++ ']' :: rest) =
      .ok (values, rest) := by
  induction values generalizing fuel with
  | nil =>
      cases fuel with
      | zero => exact absurd enough (Nat.not_lt_zero _)
      | succ fuel => rfl
  | cons value others ih =>
      cases fuel with
      | zero => exact absurd enough (Nat.not_lt_zero _)
      | succ fuel =>
          have here := restores value _ (delimited_items (others.map encode) rest)
          have later := ih fuel (Nat.lt_of_succ_lt_succ enough)
          rw [List.map_cons, toList_compactItems, List.cons_append, List.append_assoc, itemsFrom,
            bind_ok (nextItem_later (encode value) _)]
          exact (bind_ok here).trans (bind_ok later)

theorem list_restores : Restores (list reader) fun values => .arr (values.map encode) := by
  intro values rest _
  change list reader ((arr (values.map encode)).compact.toList ++ rest) = .ok (values, rest)
  cases values with
  | nil =>
      rw [List.map_nil, compact]
      rfl
  | cons value others =>
      have here := restores value _ (delimited_items (others.map encode) rest)
      have opened := nextItem_first (encode value)
        ((compactItems (others.map encode)).toList ++ ']' :: rest)
      obtain ⟨char, head, text, _, _⟩ := compact_head (encode value)
      have fits : others.length <
          (head ++ ((compactItems (others.map encode)).toList ++ ']' :: rest)).length := by
        have longer := length_le_length_items (others.map encode)
        rw [List.length_map] at longer
        simp only [List.length_append, List.length_cons]
        omega
      have later := itemsFrom_later restores others rest _ fits
      simp only [List.map_cons, toList_compact_arr, text, List.cons_append, List.append_assoc,
        List.nil_append] at here opened ⊢
      rw [list_open, List.length_cons, itemsFrom, bind_ok opened]
      exact (bind_ok here).trans (bind_ok later)

end Lists

/-! ### Tables -/

/-- The members are taken into a value one by one, from the first value to the last. -/
inductive Takes (take : String → β → Reader β) : List (String × Json) → β → β → Prop where
  | nil (value : β) : Takes take [] value value
  | cons {key : String} {json : Json} {entries : List (String × Json)} {before between after : β}
      (here : ∀ rest, Delimited rest →
        take key before (':' :: (json.compact.toList ++ rest)) = .ok (between, rest))
      (later : Takes take entries between after) : Takes take ((key, json) :: entries) before after

variable {take : String → β → Reader β} {entries : List (String × Json)} {before after : β}

theorem colon_cons (chars : List Char) : colon (':' :: chars) = .ok ((), chars) :=
  rfl

theorem nextKey_first (chars : List Char) : nextKey true ('"' :: chars) = .ok (true, chars) :=
  rfl

theorem nextKey_later (chars : List Char) :
    nextKey false (',' :: '"' :: chars) = .ok (true, chars) :=
  rfl

theorem membersFrom_later (takes : Takes take entries before after) (rest : List Char) (fuel : Nat)
    (enough : entries.length < fuel) :
    membersFrom take fuel false before ((compactFields entries).toList ++ '\x7d' :: rest) =
      .ok (after, rest) := by
  induction takes generalizing fuel with
  | nil value =>
      cases fuel with
      | zero => exact absurd enough (Nat.not_lt_zero _)
      | succ fuel => rfl
  | @cons key json others _ _ _ here _ ih =>
      cases fuel with
      | zero => exact absurd enough (Nat.not_lt_zero _)
      | succ fuel =>
          have taken := here _ (delimited_fields others rest)
          have later := ih fuel (Nat.lt_of_succ_lt_succ enough)
          simp only [toList_compactFields, toList_compactField, List.cons_append, List.append_assoc]
          rw [membersFrom, bind_ok (nextKey_later _)]
          exact (bind_ok (stringTail_escaped key _)).trans ((bind_ok taken).trans later)

theorem members_open (take : String → β → Reader β) (start : β) (chars : List Char) :
    members take start ('\x7b' :: chars) = membersFrom take chars.length true start chars :=
  rfl

theorem members_takes (takes : Takes take entries before after) (rest : List Char) :
    members take before ((obj entries).compact.toList ++ rest) = .ok (after, rest) := by
  cases takes with
  | nil value =>
      rw [compact]
      rfl
  | @cons key json others _ _ _ here later =>
      have taken := here _ (delimited_fields others rest)
      have fits : others.length < (key.toList.flatMap escapeChar ++ '"' :: ':' ::
          (json.compact.toList ++ ((compactFields others).toList ++ '\x7d' :: rest))).length := by
        have longer := length_le_length_fields others
        simp only [List.length_append, List.length_cons]
        omega
      have finished := membersFrom_later later rest _ fits
      simp only [toList_compact_obj, toList_compactField, List.cons_append, List.append_assoc,
        List.nil_append]
      rw [members_open, List.length_cons, membersFrom, bind_ok (nextKey_first _)]
      exact (bind_ok (stringTail_escaped key _)).trans ((bind_ok taken).trans finished)

theorem table_takes (takes : Takes take entries before after) (rest : List Char) :
    table take before ((obj entries).compact.toList ++ rest) = .ok (after, rest) := by
  have taken := members_takes takes rest
  obtain ⟨others, text⟩ := compact_obj_open entries
  rw [text, List.cons_append] at taken ⊢
  rw [table, bind_ok (peek_cons rfl _)]
  exact taken

/-! ### Records -/

/-- The entries are the fields in order, and reading them turns the first value into the last. -/
inductive Fills : List (Field α) → List (String × Json) → α → α → Prop where
  | nil (value : α) : Fills [] [] value value
  | cons {field : Field α} {fields : List (Field α)} {json : Json}
      {entries : List (String × Json)} {before between after : α}
      (here : ∀ rest, Delimited rest →
        field.read before (json.compact.toList ++ rest) = .ok (between, rest))
      (later : Fills fields entries between after) :
      Fills (field :: fields) ((field.name, json) :: entries) before after

theorem find?_field {fields : List (Field α)} (distinct : (fields.map Field.name).Nodup)
    {field : Field α} (member : field ∈ fields) :
    fields.find? (·.name = field.name) = some field := by
  induction fields with
  | nil => cases member
  | cons first others ih =>
      obtain ⟨fresh, othersDistinct⟩ := List.nodup_cons.mp distinct
      rcases List.mem_cons.mp member with rfl | later
      · exact List.find?_cons_of_pos (decide_eq_true rfl)
      · have different : first.name ≠ field.name := by
          intro same
          exact fresh (same ▸ List.mem_map_of_mem later)
        rw [List.find?_cons_of_neg (by simpa using different)]
        exact ih othersDistinct later

theorem takeField_known {fields : List (Field α)} {field : Field α} {seen : List String}
    {before after : α} {chars rest : List Char}
    (known : fields.find? (·.name = field.name) = some field) (unseen : field.name ∉ seen)
    (read : field.read before chars = .ok (after, rest)) :
    takeField fields field.name (before, seen) (':' :: chars) =
      .ok ((after, field.name :: seen), rest) := by
  rw [takeField, known]
  simp only [unseen, if_false]
  rw [bind_ok (colon_cons chars)]
  exact bind_ok read

/-- Fields that are known, different and not seen yet are taken one by one. -/
theorem Fills.takes {whole fields : List (Field α)} {entries : List (String × Json)}
    {before after : α} (fills : Fills fields entries before after) (seen : List String)
    (known : ∀ field ∈ fields, whole.find? (·.name = field.name) = some field)
    (distinct : (fields.map Field.name).Nodup) (unseen : ∀ field ∈ fields, field.name ∉ seen) :
    Takes (takeField whole) entries (before, seen)
      (after, (fields.map Field.name).reverse ++ seen) := by
  induction fills generalizing seen with
  | nil value => exact Takes.nil _
  | @cons field fields json entries before between after here _ ih =>
      obtain ⟨fresh, laterDistinct⟩ := List.nodup_cons.mp distinct
      have laterUnseen : ∀ other ∈ fields, other.name ∉ field.name :: seen := by
        intro other member
        rw [List.mem_cons, not_or]
        constructor
        · intro same
          exact fresh (same ▸ List.mem_map_of_mem member)
        · exact unseen other (List.mem_cons_of_mem field member)
      have later := ih (field.name :: seen)
        (fun other member => known other (List.mem_cons_of_mem field member)) laterDistinct laterUnseen
      rw [List.map_cons, List.reverse_cons, List.append_assoc, List.singleton_append]
      refine Takes.cons ?_ later
      intro rest delimited
      exact takeField_known (known field List.mem_cons_self) (unseen field List.mem_cons_self)
        (here rest delimited)

theorem record_fills {fields : List (Field α)} {entries : List (String × Json)} {blank value : α}
    (distinct : (fields.map Field.name).Nodup) (fills : Fills fields entries blank value)
    (rest : List Char) :
    record fields blank ((obj entries).compact.toList ++ rest) = .ok (value, rest) := by
  have unseen : ∀ field ∈ fields, field.name ∉ ([] : List String) :=
    fun field _ => List.not_mem_nil
  have taken := members_takes
    (fills.takes [] (fun field member => find?_field distinct member) distinct unseen) rest
  have complete : (fields.any fun field =>
      field.required && !((fields.map Field.name).reverse ++ []).contains field.name) = false := by
    rw [List.any_eq_false]
    intro field member
    have seen : field.name ∈ (fields.map Field.name).reverse ++ [] := by
      rw [List.append_nil, List.mem_reverse]
      exact List.mem_map_of_mem member
    rw [List.contains_iff_mem.mpr seen, Bool.not_true, Bool.and_false]
    exact Bool.false_ne_true
  obtain ⟨others, text⟩ := compact_obj_open entries
  rw [text, List.cons_append] at taken ⊢
  rw [record, bind_ok (peek_cons rfl _)]
  refine (bind_ok taken).trans ?_
  simp only [complete]
  rfl

/-! ### Documents -/

theorem document_restores {reader : Reader α} {encode : α → Json}
    (restores : Restores reader encode) (value : α) :
    document reader (encode value).compact = .ok value := by
  have ended : Delimited [] := by
    intro char absent
    cases absent
  have read := restores value [] ended
  rw [List.append_nil] at read
  rw [document, read]
  rfl

end Reader

end Trivalent.Json
