import Trivalent.Proofs.Atom.Names

/-!
Where a part of a text ends. If a part has no character at which parts end, and such a character or
nothing follows it, then the part can be read off the text (`append_inj_at`). So numerals, lines and
lists with commas between their entries are told from what stands behind them.
-/

set_option autoImplicit false

namespace Trivalent.Text

/-- Nothing comes next, or a character at which parts end. -/
def StopsAt (isEnd : Char → Bool) (rest : List Char) : Prop := ∀ char ∈ rest.head?, isEnd char = true

theorem stopsAt_nil (isEnd : Char → Bool) : StopsAt isEnd [] := by
  intro char absent
  cases absent

theorem stopsAt_cons {isEnd : Char → Bool} {char : Char} (stop : isEnd char = true)
    (rest : List Char) : StopsAt isEnd (char :: rest) := by
  intro first found
  cases found
  exact stop

theorem takeWhile_append {isEnd : Char → Bool} {part rest : List Char}
    (endless : ∀ char ∈ part, isEnd char = false) (stops : StopsAt isEnd rest) :
    (part ++ rest).takeWhile (fun char => !isEnd char) = part := by
  have free : ∀ char ∈ part, (!isEnd char) = true := by
    intro char member
    rw [endless char member]
    rfl
  rw [List.takeWhile_append_of_pos free]
  cases rest with
  | nil => rw [List.takeWhile_nil, List.append_nil]
  | cons char rest =>
      have stop : isEnd char = true := stops char rfl
      rw [List.takeWhile_cons_of_neg (by simp [stop]), List.append_nil]

theorem append_inj_at {isEnd : Char → Bool} {left right rest rest' : List Char}
    (leftEndless : ∀ char ∈ left, isEnd char = false)
    (rightEndless : ∀ char ∈ right, isEnd char = false)
    (stops : StopsAt isEnd rest) (stops' : StopsAt isEnd rest')
    (same : left ++ rest = right ++ rest') : left = right ∧ rest = rest' := by
  have parts : left = right := by
    rw [← takeWhile_append leftEndless stops, same, takeWhile_append rightEndless stops']
  subst parts
  exact ⟨rfl, List.append_cancel_left same⟩

/-- Parts that end at one mark. -/
theorem append_inj_at_mark {mark : Char} {left right rest rest' : List Char} (leftFree : mark ∉ left)
    (rightFree : mark ∉ right) (stops : StopsAt (· == mark) rest)
    (stops' : StopsAt (· == mark) rest') (same : left ++ rest = right ++ rest') :
    left = right ∧ rest = rest' := by
  have endless {part : List Char} (free : mark ∉ part) : ∀ char ∈ part, (char == mark) = false := by
    intro char member
    rw [beq_eq_false_iff_ne]
    rintro rfl
    exact free member
  exact append_inj_at (endless leftFree) (endless rightFree) stops stops' same

theorem line_append_inj {left right rest rest' : List Char} (leftUnbroken : '\n' ∉ left)
    (rightUnbroken : '\n' ∉ right) (same : left ++ '\n' :: rest = right ++ '\n' :: rest') :
    left = right ∧ rest = rest' := by
  obtain ⟨lines, behind⟩ := append_inj_at_mark leftUnbroken rightUnbroken
    (stopsAt_cons rfl rest) (stopsAt_cons rfl rest') same
  exact ⟨lines, (List.cons.inj behind).2⟩

theorem notMem_repr {char : Char} (foreign : char.isDigit = false) (number : Nat) :
    char ∉ number.repr.toList := by
  intro member
  rw [Nat.toList_repr] at member
  exact Numeral.toDigits_ne_of_mem member foreign number rfl

theorem numeral_append_inj {left right : Nat} {rest rest' : List Char}
    (stops : StopsAt (fun char => !char.isDigit) rest)
    (stops' : StopsAt (fun char => !char.isDigit) rest')
    (same : left.repr.toList ++ rest = right.repr.toList ++ rest') : left = right ∧ rest = rest' := by
  have endless (number : Nat) : ∀ char ∈ number.repr.toList, (!char.isDigit) = false := by
    intro char member
    rw [Nat.toList_repr] at member
    rw [(Numeral.canonical_toDigits number).decimal char member]
    rfl
  obtain ⟨numerals, behind⟩ := append_inj_at (endless left) (endless right) stops stops' same
  exact ⟨Atom.toList_repr_inj.mp numerals, behind⟩

/-! ### Entries with commas between them -/

theorem forall_mem_intercalate {motive : Char → Prop} {separator : List Char}
    {entries : List (List Char)} (between : ∀ char ∈ separator, motive char)
    (within : ∀ entry ∈ entries, ∀ char ∈ entry, motive char) :
    ∀ char ∈ separator.intercalate entries, motive char := by
  induction entries with
  | nil => exact List.forall_mem_nil _
  | cons entry rest ih =>
      obtain ⟨first, later⟩ := List.forall_mem_cons.mp within
      cases rest with
      | nil =>
          rw [List.intercalate_singleton]
          exact first
      | cons next others =>
          rw [List.intercalate_cons_of_ne_nil (List.cons_ne_nil next others), List.append_assoc,
            List.forall_mem_append, List.forall_mem_append]
          exact ⟨first, between, ih later⟩

/-- The entries behind the first one, each with a comma and a blank in front of it. -/
def laterEntries : List (List Char) → List Char
  | [] => []
  | entry :: rest => ',' :: ' ' :: (entry ++ laterEntries rest)

theorem intercalate_cons (entry : List Char) (rest : List (List Char)) :
    [',', ' '].intercalate (entry :: rest) = entry ++ laterEntries rest := by
  induction rest generalizing entry with
  | nil => rw [List.intercalate_singleton, laterEntries, List.append_nil]
  | cons next others ih =>
      rw [List.intercalate_cons_of_ne_nil (List.cons_ne_nil next others), ih, laterEntries,
        List.append_assoc, List.cons_append, List.cons_append, List.nil_append]

theorem stopsAt_laterEntries (entries : List (List Char)) :
    StopsAt (· == ',') (laterEntries entries) := by
  cases entries with
  | nil => exact stopsAt_nil _
  | cons entry rest => exact stopsAt_cons rfl _

theorem laterEntries_inj {left right : List (List Char)} (leftFree : ∀ entry ∈ left, ',' ∉ entry)
    (rightFree : ∀ entry ∈ right, ',' ∉ entry) (same : laterEntries left = laterEntries right) :
    left = right := by
  induction left generalizing right with
  | nil =>
      cases right with
      | nil => rfl
      | cons entry rest => cases same
  | cons entry rest ih =>
      cases right with
      | nil => cases same
      | cons entry' rest' =>
          obtain ⟨free, restFree⟩ := List.forall_mem_cons.mp leftFree
          obtain ⟨free', restFree'⟩ := List.forall_mem_cons.mp rightFree
          have bodies : entry ++ laterEntries rest = entry' ++ laterEntries rest' :=
            (List.cons.inj (List.cons.inj same).2).2
          obtain ⟨rfl, behind⟩ := append_inj_at_mark free free' (stopsAt_laterEntries rest)
            (stopsAt_laterEntries rest') bodies
          rw [ih restFree restFree' behind]

/-- A list of entries can be read off its text. An empty list has the empty text, which no list of
entries has that are not empty. -/
theorem intercalate_inj {left right : List (List Char)}
    (leftEntries : ∀ entry ∈ left, entry ≠ [] ∧ ',' ∉ entry)
    (rightEntries : ∀ entry ∈ right, entry ≠ [] ∧ ',' ∉ entry)
    (same : [',', ' '].intercalate left = [',', ' '].intercalate right) : left = right := by
  have nonempty {entry : List Char} {rest : List (List Char)} (solid : entry ≠ []) :
      [',', ' '].intercalate (entry :: rest) ≠ [] := by
    rw [intercalate_cons]
    exact List.append_ne_nil_of_left_ne_nil solid _
  cases left with
  | nil =>
      cases right with
      | nil => rfl
      | cons entry rest => exact absurd same.symm (nonempty (rightEntries entry List.mem_cons_self).1)
  | cons entry rest =>
      cases right with
      | nil => exact absurd same (nonempty (leftEntries entry List.mem_cons_self).1)
      | cons entry' rest' =>
          rw [intercalate_cons, intercalate_cons] at same
          obtain ⟨first, later⟩ := List.forall_mem_cons.mp leftEntries
          obtain ⟨first', later'⟩ := List.forall_mem_cons.mp rightEntries
          obtain ⟨rfl, behind⟩ := append_inj_at_mark first.2 first'.2 (stopsAt_laterEntries rest)
            (stopsAt_laterEntries rest') same
          rw [laterEntries_inj (fun entry member => (later entry member).2)
            (fun entry member => (later' entry member).2) behind]

end Trivalent.Text
