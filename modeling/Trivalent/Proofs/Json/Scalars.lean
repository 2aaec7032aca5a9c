import Trivalent.Json.Basic
import Trivalent.Json.Reader.Record
import Trivalent.Proofs.Text.Numeral

/-!
Strings, words and flags read back from their texts. A reader is given the text of a value and
whatever follows it, and has to leave all that follows. Only a number needs to know what that is: a
digit, a point or an exponent would belong to it, and a delimiter does not.
-/

set_option autoImplicit false

namespace Trivalent.Json

theorem toList_quote (text : String) :
    (quote text).toList = '"' :: (text.toList.flatMap escapeChar ++ ['"']) :=
  String.toList_ofList

namespace Reader

variable {α β : Type}

theorem bind_ok {reader : Reader α} {next : α → Reader β} {chars ahead : List Char} {value : α}
    (read : reader chars = .ok (value, ahead)) : (reader >>= next) chars = next value ahead := by
  change (reader chars >>= fun pair => next pair.1 pair.2) = next value ahead
  rw [read]
  rfl

theorem map_ok {reader : Reader α} {change : α → β} {chars ahead : List Char} {value : α}
    (read : reader chars = .ok (value, ahead)) :
    (change <$> reader) chars = .ok (change value, ahead) := by
  change (reader chars >>= fun pair => .ok (change pair.1, pair.2)) = .ok (change value, ahead)
  rw [read]
  rfl

theorem peek_cons {char : Char} (visible : isSpace char = false) (rest : List Char) :
    peek (char :: rest) = .ok (some char, char :: rest) := by
  simp only [peek, List.dropWhile_cons, visible, Bool.false_eq_true, if_false, List.head?_cons]

theorem advance_cons (char : Char) (rest : List Char) : advance (char :: rest) = .ok ((), rest) :=
  rfl

theorem remaining_eq (chars : List Char) : remaining chars = .ok (chars.length, chars) :=
  rfl

theorem letters_append (expected rest : List Char) :
    letters expected (expected ++ rest) = .ok ((), rest) := by
  induction expected with
  | nil => rfl
  | cons char others ih =>
      rw [List.cons_append, letters]
      simp only [if_true]
      exact ih

/-! ### Strings -/

theorem hexValue?_hexDigit (value : Nat) : hexValue? (hexDigit value) = some (value % 16) := by
  have table : ∀ digit < 16, hexValue? (Nat.digitChar digit) = some digit := by decide
  exact table (value % 16) (Nat.mod_lt value (by decide))

theorem hexEscape_control {value : Nat} (control : value < 0x20) (rest : List Char) :
    hexEscape ('0' :: '0' :: hexDigit (value / 16) :: hexDigit value :: rest) = .ok (value, rest) := by
  have digits : ['0', '0', hexDigit (value / 16), hexDigit value].mapM hexValue? =
      some [0, 0, value / 16 % 16, value % 16] := by
    have zero : hexValue? '0' = some 0 := by decide
    simp only [List.mapM_cons, List.mapM_nil, hexValue?_hexDigit, zero, Option.pure_def,
      Option.bind_eq_bind, Option.bind_some]
  have whole : ((0 * 16 + 0) * 16 + value / 16 % 16) * 16 + value % 16 = value := by omega
  simp only [hexEscape, List.take_succ_cons, List.take_zero, digits, whole, List.drop_succ_cons,
    List.drop_zero]

theorem unicodeEscape_control {char : Char} (control : char.toNat < 0x20) (rest : List Char) :
    unicodeEscape ('0' :: '0' :: hexDigit (char.toNat / 16) :: hexDigit char.toNat :: rest) =
      .ok (char, rest) := by
  have notLow : isLowSurrogate char.toNat = false := by
    simp only [isLowSurrogate, Bool.and_eq_false_iff, decide_eq_false_iff_not]
    omega
  have notHigh : isHighSurrogate char.toNat = false := by
    simp only [isHighSurrogate, Bool.and_eq_false_iff, decide_eq_false_iff_not]
    omega
  rw [unicodeEscape, bind_ok (hexEscape_control control rest)]
  simp only [notLow, notHigh, Bool.false_eq_true, if_false, Char.ofNat_toNat]
  rfl

theorem stringUnit_escapeChar (char : Char) (rest : List Char) :
    stringUnit (escapeChar char ++ rest) = .ok (some char, rest) := by
  unfold escapeChar
  split
  · next quote => rw [quote]; rfl
  split
  · next backslash => rw [backslash]; rfl
  split
  · next backspace => rw [backspace]; rfl
  split
  · next tab => rw [tab]; rfl
  split
  · next newline => rw [newline]; rfl
  split
  · next feed => rw [feed]; rfl
  split
  · next carriage => rw [carriage]; rfl
  split
  · rename_i control
    exact map_ok (unicodeEscape_control control rest)
  · rename_i notQuote notBackslash _ _ _ _ _ printable
    rw [List.singleton_append, stringUnit]
    · simp only [printable, if_false]
    · exact notQuote
    · exact notBackslash

theorem stringUnits_escaped (chars rest : List Char) (fuel : Nat) (enough : chars.length < fuel) :
    stringUnits fuel (chars.flatMap escapeChar ++ '"' :: rest) = .ok (chars, rest) := by
  induction chars generalizing fuel with
  | nil =>
      cases fuel with
      | zero => exact absurd enough (Nat.not_lt_zero _)
      | succ fuel => rfl
  | cons char others ih =>
      cases fuel with
      | zero => exact absurd enough (Nat.not_lt_zero _)
      | succ fuel =>
          have later := ih fuel (Nat.lt_of_succ_lt_succ enough)
          rw [List.flatMap_cons, List.append_assoc, stringUnits,
            bind_ok (stringUnit_escapeChar char _)]
          exact bind_ok later

theorem length_le_length_escaped (chars : List Char) :
    chars.length ≤ (chars.flatMap escapeChar).length := by
  have some : ∀ char, 0 < (escapeChar char).length := by
    intro char
    unfold escapeChar
    repeat' split
    all_goals exact Nat.succ_pos _
  induction chars with
  | nil => exact Nat.le_refl 0
  | cons char others ih =>
      have here := some char
      rw [List.flatMap_cons, List.length_append, List.length_cons]
      omega

theorem stringTail_escaped (text : String) (rest : List Char) :
    stringTail (text.toList.flatMap escapeChar ++ '"' :: rest) = .ok (text, rest) := by
  have enough : text.toList.length <
      (text.toList.flatMap escapeChar ++ '"' :: rest).length := by
    have longer := length_le_length_escaped text.toList
    rw [List.length_append, List.length_cons]
    omega
  rw [stringTail]
  refine (bind_ok (remaining_eq _)).trans ((bind_ok (stringUnits_escaped _ rest _ enough)).trans ?_)
  exact congrArg (fun read => Except.ok (read, rest)) String.ofList_toList

/-! ### Numbers -/

/-- What may follow a value: the end of the text, a comma or a closing bracket. -/
def Delimited (rest : List Char) : Prop :=
  ∀ char ∈ rest.head?, char = ',' ∨ char = ']' ∨ char = '\x7d'

theorem Delimited.cases {rest : List Char} (delimited : Delimited rest) :
    rest = [] ∨ ∃ others, rest = ',' :: others ∨ rest = ']' :: others ∨ rest = '\x7d' :: others := by
  cases rest with
  | nil => exact Or.inl rfl
  | cons char others =>
      refine Or.inr ⟨others, ?_⟩
      rcases delimited char rfl with rfl | rfl | rfl
      · exact Or.inl rfl
      · exact Or.inr (Or.inl rfl)
      · exact Or.inr (Or.inr rfl)

theorem Delimited.no_digit {rest : List Char} (delimited : Delimited rest) :
    rest.head?.any Char.isDigit = false := by
  rcases delimited.cases with rfl | ⟨others, rfl | rfl | rfl⟩
  all_goals rfl

theorem Delimited.span_digits {rest : List Char} (delimited : Delimited rest) :
    rest.takeWhile Char.isDigit = [] ∧ rest.dropWhile Char.isDigit = rest := by
  rcases delimited.cases with rfl | ⟨others, rfl | rfl | rfl⟩
  all_goals exact ⟨rfl, rfl⟩

theorem le_ofDigitChars (digits : List Char) (value : Nat) :
    value ≤ Nat.ofDigitChars 10 digits value := by
  have scaled := Nat.mul_le_mul_right value (Nat.one_le_pow digits.length 10 (by decide))
  rw [Nat.ofDigitChars_eq_ofDigitChars_zero]
  omega

theorem accumulate_digits {digits rest : List Char} (value : Nat)
    (decimal : ∀ digit ∈ digits, digit.isDigit = true)
    (word : Nat.ofDigitChars 10 digits value < wordLimit)
    (noDigit : rest.head?.any Char.isDigit = false) :
    accumulate value (digits ++ rest) = (Nat.ofDigitChars 10 digits value, digits.length, rest) := by
  induction digits generalizing value with
  | nil =>
      cases rest with
      | nil => rfl
      | cons char others =>
          have other : char.isDigit = false := noDigit
          simp only [List.nil_append, accumulate, other, Bool.false_eq_true, false_and, if_false,
            Nat.ofDigitChars_nil, List.length_nil]
  | cons digit others ih =>
      rw [Nat.ofDigitChars_cons] at word ⊢
      have fits := Nat.lt_of_le_of_lt (le_ofDigitChars others _) word
      have isDigit := decimal digit List.mem_cons_self
      have later := ih _ (fun other member => decimal other (List.mem_cons_of_mem _ member)) word
      simp only [List.cons_append, accumulate, isDigit, fits, true_and, if_true, later,
        List.length_cons]

theorem integerTail_delimited {rest : List Char} (delimited : Delimited rest) (value : Nat) :
    integerTail value 0 rest = .ok (some value, rest) := by
  rcases delimited.cases with rfl | ⟨others, rfl | rfl | rfl⟩
  all_goals rfl

theorem number_toDigits {value : Nat} (word : value < wordLimit) {rest : List Char}
    (delimited : Delimited rest) :
    number (Nat.toDigits 10 value ++ rest) = .ok (some value, rest) := by
  have canonical := Numeral.canonical_toDigits value
  have noDigit := delimited.no_digit
  by_cases zero : value = 0
  · rw [zero, Nat.toDigits_zero, List.singleton_append, number]
    simp only [noDigit, Bool.false_eq_true, if_false]
    exact integerTail_delimited delimited 0
  · have whole : Nat.ofDigitChars 10 (Nat.toDigits 10 value) 0 = value :=
      Nat.ofDigitChars_ten_toDigits
    have taken := accumulate_digits 0 canonical.decimal (whole.symm ▸ word) noDigit
    have first := Numeral.head?_toDigits_ne_zero (Nat.pos_of_ne_zero zero)
    rw [whole] at taken
    cases digits : Nat.toDigits 10 value with
    | nil => exact absurd digits canonical.nonempty
    | cons digit others =>
        rw [digits] at taken first
        have isDigit := canonical.decimal digit (digits ▸ List.mem_cons_self)
        have notZero : digit ≠ '0' := fun same => first (congrArg some same)
        obtain ⟨none, all⟩ := delimited.span_digits
        rw [List.cons_append] at taken ⊢
        rw [number]
        · simp only [isDigit, if_true, taken, none, all, List.length_nil]
          exact integerTail_delimited delimited value
        · exact notZero

/-! ### Scalars -/

/-- The reader finds the value in its text and leaves what follows it. -/
def Restores (reader : Reader α) (encode : α → Json) : Prop :=
  ∀ (value : α) (rest : List Char), Delimited rest →
    reader ((encode value).compact.toList ++ rest) = .ok (value, rest)

theorem isSpace_of_isDigit {char : Char} (decimal : char.isDigit = true) : isSpace char = false := by
  cases space : isSpace char with
  | false => rfl
  | true =>
      simp only [isSpace, Bool.or_eq_true, beq_iff_eq] at space
      rcases space with ((rfl | rfl) | rfl) | rfl
      · cases decimal
      · cases decimal
      · cases decimal
      · cases decimal

/-- The text of a value starts with a character that is no blank and closes no list. -/
theorem compact_head (json : Json) : ∃ char others,
    json.compact.toList = char :: others ∧ isSpace char = false ∧ char ≠ ']' := by
  cases json with
  | null => exact ⟨'n', "ull".toList, by rw [compact]; rfl, rfl, by decide⟩
  | bool value =>
      cases value with
      | true => exact ⟨'t', "rue".toList, by rw [compact]; rfl, rfl, by decide⟩
      | false => exact ⟨'f', "alse".toList, by rw [compact]; rfl, rfl, by decide⟩
  | num value =>
      cases digits : Nat.toDigits 10 value with
      | nil => exact absurd digits Nat.toDigits_ne_nil
      | cons digit others =>
          have decimal := (Numeral.canonical_toDigits value).decimal digit (digits ▸ List.mem_cons_self)
          refine ⟨digit, others, ?_, isSpace_of_isDigit decimal, ?_⟩
          · rw [compact, Nat.toList_repr, digits]
          · rintro rfl
            cases decimal
  | str value => exact ⟨'"', _, by rw [compact, toList_quote], rfl, by decide⟩
  | arr items =>
      cases items with
      | nil => exact ⟨'[', [']'], by rw [compact]; rfl, rfl, by decide⟩
      | cons item rest =>
          refine ⟨'[', (compact item ++ compactItems rest ++ "]").toList, ?_, rfl, by decide⟩
          simp [compact]
  | obj fields =>
      cases fields with
      | nil => exact ⟨'\x7b', ['\x7d'], by rw [compact]; rfl, rfl, by decide⟩
      | cons field rest =>
          refine ⟨'\x7b', (compactField field ++ compactFields rest ++ "\x7d").toList, ?_, rfl,
            by decide⟩
          simp [compact]

theorem word_restores : Restores word fun value => .num value.toNat := by
  intro value rest delimited
  have small : value.toNat < wordLimit := value.toNat_lt
  have read := number_toDigits small delimited
  rw [compact, Nat.toList_repr]
  cases digits : Nat.toDigits 10 value.toNat with
  | nil => exact absurd digits Nat.toDigits_ne_nil
  | cons digit others =>
      have decimal := (Numeral.canonical_toDigits value.toNat).decimal digit
        (digits ▸ List.mem_cons_self)
      rw [digits] at read
      rw [word, List.cons_append, bind_ok (peek_cons (isSpace_of_isDigit decimal) _)]
      simp only [decimal, if_true]
      refine (bind_ok read).trans ?_
      exact congrArg (fun word => Except.ok (word, rest)) UInt64.ofNat_toNat

theorem bool_restores : Restores bool .bool := by
  intro value rest _
  cases value with
  | true =>
      rw [compact]
      change bool ('t' :: ("rue".toList ++ rest)) = .ok (true, rest)
      rw [bool, bind_ok (peek_cons rfl _)]
      exact (bind_ok (advance_cons 't' _)).trans (bind_ok (letters_append "rue".toList rest))
  | false =>
      rw [compact]
      change bool ('f' :: ("alse".toList ++ rest)) = .ok (false, rest)
      rw [bool, bind_ok (peek_cons rfl _)]
      exact (bind_ok (advance_cons 'f' _)).trans (bind_ok (letters_append "alse".toList rest))

theorem string_restores : Restores string .str := by
  intro value rest _
  rw [compact, toList_quote, List.cons_append, List.append_assoc, string,
    bind_ok (peek_cons rfl _)]
  exact stringTail_escaped value rest

theorem optional_string_restores : Restores (optional string) (ofOption .str) := by
  intro value rest delimited
  cases value with
  | none =>
      rw [ofOption, compact]
      change optional string ('n' :: ("ull".toList ++ rest)) = .ok (none, rest)
      rw [optional, bind_ok (peek_cons rfl _)]
      exact (bind_ok (advance_cons 'n' _)).trans (bind_ok (letters_append "ull".toList rest))
  | some text =>
      have read := string_restores text rest delimited
      rw [ofOption]
      rw [compact, toList_quote, List.cons_append] at read ⊢
      rw [optional, bind_ok (peek_cons rfl _)]
      exact bind_ok read

end Reader

end Trivalent.Json
