import Mathlib.Data.List.Basic
import OrderCustody.Proofs.Decimal
import OrderCustody.Proofs.Json.Following

namespace OrderCustody.Json

/-!
# What is written spells its value

The writer has one way among many to spell a value: no blanks, few escapes, and numbers
by their digits alone.  So whatever a reader takes from a value, it takes from what was
written for it.
-/

open Bytes (ofChars)

/-! ## Texts -/

theorem ofNat_toNat_ascii
    {c : Char}
    (small : c.toNat < 128) :
    Char.ofNat (ascii c).toNat = c := by
  have same : (ascii c).toNat = c.toNat := by
    rw [ascii, UInt8.toNat_ofNat', Nat.mod_eq_of_lt (by omega)]
  rw [same, Char.ofNat_toNat]

namespace Piece

/-- A character is written as one piece, which stands for it. -/
theorem exists_escaped (c : Char) :
    ∃ piece : Piece,
      piece.bytes = ofChars (escaped c) ∧
        ∀ pieces, decode (piece :: pieces) = (decode pieces).map (c :: ·) := by
  rcases escaped_cases c with
    ⟨letter, written, -, letterSmall, small, stands⟩ | ⟨written, control⟩ |
      ⟨written, notQuote, notBackslash, visible⟩
  · refine ⟨.short (ascii letter) (ascii c) stands, ?_, fun pieces => ?_⟩
    · rw [written, ofChars_short letterSmall, Piece.bytes]
    · rw [decode, ofNat_toNat_ascii small]
  · refine ⟨.number _ _ _ _ _ (fourDigits_of_control control), ?_, fun pieces => ?_⟩
    · rw [written, ofChars_number control, Piece.bytes]
    · exact decode_cons_control control _ pieces
  · refine ⟨.plain c notQuote notBackslash visible, ?_, fun pieces => ?_⟩
    · rw [written, Bytes.ofChars_cons, Bytes.ofChars_nil, List.append_nil, bytes]
    · rw [decode]

/-- A text is written as pieces that spell it. -/
theorem exists_written (text : String) :
    ∃ pieces,
      closed pieces = ofChars (text.toList.flatMap escaped ++ ['"']) ∧
        text? pieces = some text := by
  have spelled (characters : List Char) :
      ∃ pieces,
        closed pieces = ofChars (characters.flatMap escaped ++ ['"']) ∧
          decode pieces = some characters := by
    induction characters with
    | nil => exact ⟨[], by decide, rfl⟩
    | cons c characters inductionHypothesis =>
        obtain ⟨pieces, written, decoded⟩ := inductionHypothesis
        obtain ⟨piece, bytes, stands⟩ := exists_escaped c
        refine ⟨piece :: pieces, ?_, ?_⟩
        · rw [List.flatMap_cons, List.append_assoc, Bytes.ofChars_append, ← written, ← bytes]
          exact List.append_assoc _ _ _
        · rw [stands, decoded, Option.map_some]
  obtain ⟨pieces, written, decoded⟩ := spelled text.toList
  refine ⟨pieces, written, ?_⟩
  rw [text?, decoded, Option.map_some, String.ofList_toList]

end Piece

/-! ## Numbers -/

theorem ascii_of_isDigit
    {c : Char}
    (digit : Decimal.isDigit c = true) :
    isDigit (ascii c) = true ∧ (ascii c).toNat = c.toNat ∧ c.toNat < 128 := by
  obtain ⟨index, rfl, -⟩ := Decimal.exists_digitChar_of_isDigit digit
  revert index
  decide

theorem digitsValue_ascii
    {digits : List Char}
    (allDigits : ∀ c ∈ digits, Decimal.isDigit c = true) :
    digitsValue (digits.map ascii) = Decimal.value digits := by
  rw [digitsValue, Decimal.value, List.foldl_map]
  refine List.foldl_ext _ _ _ fun value c member => ?_
  rw [(ascii_of_isDigit (allDigits c member)).2.1]

/-- No number is written with a zero in front. -/
theorem toDigits_lone_zero
    {number : Nat}
    (leading : ((Nat.toDigits 10 number).map ascii).head? = some (ascii '0')) :
    (Nat.toDigits 10 number).map ascii = [ascii '0'] := by
  rw [List.head?_map] at leading
  obtain ⟨c, first, zero⟩ := Option.map_eq_some_iff.mp leading
  have digit := Decimal.isDigit_of_mem_toDigits (List.mem_of_head? first)
  have isZero : c = '0' := by
    rw [← ofNat_toNat_ascii (ascii_of_isDigit digit).2.2, zero]
    rfl
  rw [Decimal.toDigits_of_leading_zero (isZero ▸ first)]
  rfl

/-- A number as its digits spell it. -/
def Numeral.ofNat (number : Nat) : Numeral where
  negative := false
  whole := {
    bytes := (Nat.toDigits 10 number).map ascii
    ne_nil := List.map_eq_nil_iff.not.mpr Nat.toDigits_ne_nil
    isDigit_of_mem := by
      intro byte member
      obtain ⟨c, digit, rfl⟩ := List.mem_map.mp member
      exact (ascii_of_isDigit (Decimal.isDigit_of_mem_toDigits digit)).1
  }
  fraction := none
  exponent := none
  lone_zero := toDigits_lone_zero

namespace Numeral

theorem bytes_ofNat (number : Nat) :
    (ofNat number).bytes = ofChars (toString number).toList := by
  have small : ∀ c ∈ Nat.toDigits 10 number, c.toNat < 128 := fun c member =>
    (ascii_of_isDigit (Decimal.isDigit_of_mem_toDigits member)).2.2
  rw [Nat.toString_eq_repr, Nat.toList_repr, Bytes.ofChars_of_lt small]
  simp only [bytes, sign, body, fractionBytes, exponentBytes, ofNat, Bool.false_eq_true,
    ↓reduceIte, List.nil_append, List.append_nil]
  rfl

@[simp] theorem natural?_ofNat (number : Nat) : (ofNat number).natural? = some number := by
  have value : digitsValue ((Nat.toDigits 10 number).map ascii) = number :=
    (digitsValue_ascii fun _ => Decimal.isDigit_of_mem_toDigits).trans
      (Decimal.value_toDigits number)
  simp only [natural?, ofNat, Option.isSome_none, Bool.false_eq_true, or_self, ↓reduceIte,
    value]

end Numeral

/-! ## Whole values -/

mutual

/-- A value that is written, as the tree that its text spells. -/
def Value.tree : Value → Tree
  | .null => .null
  | .flag value => .flag value
  | .number value => .number (.ofNat value)
  | .text value => .text (some value)
  | .record members => .object (memberTrees members)

/-- The trees of the members of a record. -/
def memberTrees : List (String × Value) → List (Option String × Tree)
  | [] => []
  | (name, value) :: members => (some name, value.tree) :: memberTrees members

end

/-- A member that is written, with what is written behind it. -/
theorem spelled_member
    {first : Bool}
    {gap : Bytes}
    {value : Value}
    {others : List Char}
    {members : List (Option String × Tree)}
    (separator : Separator first gap)
    (name : String)
    (spelled : Spelled (.value value.tree) (ofChars value.write))
    (rest : Spelled (.members false members) (ofChars others)) :
    Spelled (.members first ((some name, value.tree) :: members))
      (gap ++ ofChars (writeText name ++ ':' :: (value.write ++ others))) := by
  obtain ⟨pieces, written, stands⟩ := Piece.exists_written name
  have bytes := ofChars_member name value others []
  rw [List.append_nil, List.append_nil, ← written] at bytes
  rw [bytes]
  exact .member separator stands .nil .nil spelled rest

mutual

/-- What is written for a value spells it. -/
theorem spelled_value : (value : Value) → Spelled (.value value.tree) (ofChars value.write)
  | .null => .null
  | .flag true => .flagTrue
  | .flag false => .flagFalse
  | .number value => Numeral.bytes_ofNat value ▸ .number (.ofNat value)
  | .text value => by
      obtain ⟨pieces, written, stands⟩ := Piece.exists_written value
      rw [Value.write, ofChars_writeText, ← written]
      exact .text stands
  | .record [] => .object (.endOfObject .nil)
  | .record ((name, value) :: members) => by
      rw [Value.write, Bytes.ofChars_cons_of_lt (by decide)]
      exact .object
        (spelled_member (.start .nil) name (spelled_value value) (spelled_rest members))

theorem spelled_rest :
    (members : List (String × Value)) →
      Spelled (.members false (memberTrees members)) (ofChars (writeRest members))
  | [] => .endOfObject .nil
  | (name, value) :: members => by
      rw [writeRest, Bytes.ofChars_cons_of_lt (by decide)]
      exact spelled_member (.comma .nil .nil) name (spelled_value value) (spelled_rest members)

end

theorem Delimited.ended
    {rest : Bytes}
    (delimited : Delimited rest) :
    Ended rest := by
  intro byte isFirst
  rcases delimited byte isFirst with comma | closing
  · exact .inr (.inl comma)
  · exact .inr (.inr (.inr closing))

/-! ## Reading back -/

/-- What a reader takes from a value, it takes back from what was written for it. -/
theorem Takes.reads
    {α : Type}
    {reader : Reader α}
    {take : Tree → Option α}
    {written : Value}
    {value : α}
    (takes : Takes reader take)
    (taken : take written.tree = some value) :
    Reads reader written value := by
  intro rest delimited
  have read := takes.read (spelled_value written) .nil delimited.ended
  rw [List.nil_append, taken, Option.map_some] at read
  cases outcome : reader (ofChars written.write ++ rest) with
  | error cause =>
      rw [outcome] at read
      cases read
  | ok result =>
      rw [outcome] at read
      cases read
      rfl

theorem reads_byte (byte : UInt8) : Reads Reader.byte (.number byte.toNat) byte := by
  refine takes_byte.reads ?_
  simp [Value.tree, Tree.natural?, Option.filter, byte.toNat_lt]

theorem reads_word (word : UInt64) : Reads Reader.word (.number word.toNat) word := by
  have takes := (takes_natural (Nat.le_refl _) "u64").map UInt64.ofNat
  refine takes.reads ?_
  simp [Value.tree, Tree.natural?, Option.filter, word.toNat_lt]

theorem reads_flag (flag : Bool) : Reads Reader.flag (.flag flag) flag := by
  intro rest _
  cases flag <;> rfl

theorem reads_null
    {α : Type}
    (reader : Reader α) :
    Reads reader.optional .null none := by
  intro rest _
  rfl

/-- Where nothing may stand, a value is read back unless it is written as nothing. -/
theorem Reads.optional
    {α : Type}
    {reader : Reader α}
    {written : Value}
    {value : α}
    (reads : Reads reader written value)
    (present : written.tree ≠ .null) :
    Reads reader.optional written (some value) := by
  intro rest delimited
  have read := reads rest delimited
  obtain ⟨byte, others, shape, opens⟩ := (spelled_value written).opens
  have notNull : byte ≠ ascii 'n' := by
    rintro rfl
    exact present opens.eq_null
  rw [shape, List.cons_append] at read ⊢
  simp only [Reader.optional, skipBlanks_cons opens.inner.1, notNull, ↓reduceIte, read,
    bind, Except.bind]
  rfl

end OrderCustody.Json
