import OrderCustody.Json.Lexer
import OrderCustody.Json.Writer
import OrderCustody.Proofs.Bytes.Text

namespace OrderCustody.Json

/-!
# Written texts are read back

Inside a text each character is written as an escape or as itself.  The reader takes
the escape, or the bytes of the character one by one, and has collected the bytes of
the character in either case; the quote that ends the text is the first one it meets,
since the quotes of the text itself are escaped.
-/

open Bytes (ofChars)

/-- A byte that stands for itself inside a text. -/
def Plain (byte : UInt8) : Prop :=
  byte.toNat ≠ 34 ∧ byte.toNat ≠ 92 ∧ 32 ≤ byte.toNat

theorem textBytes_cons_of_plain
    {byte : UInt8}
    (plain : Plain byte)
    (collected rest : Bytes) :
    textBytes collected (byte :: rest) = textBytes (byte :: collected) rest := by
  obtain ⟨notQuote, notBackslash, visible⟩ := plain
  have other : byte ≠ ascii '"' := fun same => notQuote (congrArg UInt8.toNat same)
  have noEscape : byte ≠ ascii '\\' := fun same =>
    notBackslash (congrArg UInt8.toNat same)
  have noControl : ¬ byte < 0x20 := by
    rw [UInt8.lt_iff_toNat_lt]
    exact Nat.not_lt_of_le visible
  rw [textBytes.eq_def]
  simp only [other, noEscape, noControl, ↓reduceIte]

theorem textBytes_append_of_plain
    {bytes : Bytes}
    (plain : ∀ byte ∈ bytes, Plain byte)
    (collected rest : Bytes) :
    textBytes collected (bytes ++ rest) = textBytes (bytes.reverse ++ collected) rest := by
  induction bytes generalizing collected with
  | nil => rfl
  | cons byte bytes inductionHypothesis =>
      have first : Plain byte := plain byte List.mem_cons_self
      have others : ∀ other ∈ bytes, Plain other := fun other member =>
        plain other (List.mem_cons_of_mem _ member)
      rw [List.cons_append, textBytes_cons_of_plain first, inductionHypothesis others,
        List.reverse_cons, List.append_assoc, List.singleton_append]

theorem textBytes_cons_of_escape
    {decoded after rest : Bytes}
    (read : escape after = .ok (decoded, rest))
    (collected : Bytes) :
    textBytes collected (ascii '\\' :: after) =
      textBytes (decoded.reverse ++ collected) rest := by
  have noQuote : ascii '\\' ≠ ascii '"' := by decide
  rw [textBytes.eq_def]
  simp only [noQuote, ↓reduceIte]
  split
  · next failed =>
      rw [read] at failed
      cases failed
  · next taken =>
      rw [read] at taken
      cases taken
      rfl

/-! ## One character -/

/-- What a character is written as: a short escape, its number or itself. -/
theorem escaped_cases (c : Char) :
    (∃ letter,
      escaped c = ['\\', letter] ∧
        ' ' ≤ letter ∧
        letter.toNat < 128 ∧
        c.toNat < 128 ∧
        simpleEscape? (ascii letter) = some (ascii c)) ∨
      (escaped c =
          ['\\', 'u', '0', '0', Hex.digit (c.toNat / 16), Hex.digit (c.toNat % 16)] ∧
        c.toNat < 32) ∨
      (escaped c = [c] ∧ c ≠ '"' ∧ c ≠ '\\' ∧ ' ' ≤ c) := by
  unfold escaped
  iterate 7
    split
    · next same =>
        subst same
        exact .inl ⟨_, rfl, by decide, by decide, by decide, rfl⟩
  split
  · next control => exact .inr (.inl ⟨rfl, control⟩)
  · next notQuote notBackslash _ _ _ _ _ visible =>
      exact .inr (.inr ⟨rfl, notQuote, notBackslash, Char.not_lt.mp visible⟩)

theorem escape_short
    {letter : Char}
    {byte : UInt8}
    (short : simpleEscape? (ascii letter) = some byte)
    (rest : Bytes) :
    escape (ascii letter :: rest) = .ok ([byte], rest) := by
  simp only [escape, short]

theorem value?_ascii_digit
    {value : Nat}
    (small : value < 16) :
    Hex.value? (Char.ofNat (ascii (Hex.digit value)).toNat) = some value := by
  have every :
      ∀ n : Fin 16, Hex.value? (Char.ofNat (ascii (Hex.digit n)).toNat) = some n.val := by
    decide
  exact every ⟨value, small⟩

theorem digit_bounds
    {value : Nat}
    (small : value < 16) :
    ' ' ≤ Hex.digit value ∧ (Hex.digit value).toNat < 128 := by
  have every : ∀ n : Fin 16, ' ' ≤ Hex.digit n ∧ (Hex.digit n).toNat < 128 := by decide
  exact every ⟨value, small⟩

theorem escape_number
    {value : Nat}
    (control : value < 32)
    (rest : Bytes) :
    escape (ascii 'u' :: ascii '0' :: ascii '0' :: ascii (Hex.digit (value / 16)) ::
      ascii (Hex.digit (value % 16)) :: rest) =
      .ok (String.utf8EncodeChar (Char.ofNat value), rest) := by
  have notShort : simpleEscape? (ascii 'u') = none := by decide
  have zero : Hex.value? (Char.ofNat (ascii '0').toNat) = some 0 := by decide
  have tensSmall : value / 16 < 16 := by omega
  have onesSmall : value % 16 < 16 := by omega
  have whole : 4096 * 0 + 256 * 0 + 16 * (value / 16) + value % 16 = value := by omega
  have notLow : ¬ (0xdc00 ≤ value ∧ value ≤ 0xdfff) := by omega
  have notHigh : ¬ (0xd800 ≤ value ∧ value ≤ 0xdbff) := by omega
  simp only [escape, notShort, hexEscape, fourDigits, zero, value?_ascii_digit tensSmall,
    value?_ascii_digit onesSmall, whole, bind, Except.bind, pure, Except.pure, notLow,
    notHigh, ne_eq, not_true_eq_false, ↓reduceIte, codePointBytes,
    Bytes.ofText_eq_ofChars, String.toList_singleton, Bytes.ofChars_cons,
    Bytes.ofChars_nil, List.append_nil]

theorem ofChars_short
    {letter : Char}
    (small : letter.toNat < 128) :
    ofChars ['\\', letter] = [ascii '\\', ascii letter] :=
  Bytes.ofChars_of_lt (by simp [small])

theorem ofChars_number
    {value : Nat}
    (control : value < 32) :
    ofChars ['\\', 'u', '0', '0', Hex.digit (value / 16), Hex.digit (value % 16)] =
      [ascii '\\', ascii 'u', ascii '0', ascii '0', ascii (Hex.digit (value / 16)),
        ascii (Hex.digit (value % 16))] := by
  have tensSmall : value / 16 < 16 := by omega
  have onesSmall : value % 16 < 16 := by omega
  exact Bytes.ofChars_of_lt
    (by simp [(digit_bounds tensSmall).2, (digit_bounds onesSmall).2])

theorem plain_of_mem_utf8EncodeChar
    {c : Char}
    {byte : UInt8}
    (notQuote : c ≠ '"')
    (notBackslash : c ≠ '\\')
    (visible : ' ' ≤ c)
    (member : byte ∈ String.utf8EncodeChar c) :
    Plain byte := by
  by_cases small : c.toNat < 128
  · have notThirtyFour : c.toNat ≠ 34 := fun same => notQuote (Char.toNat_inj.mp same)
    have notNinetyTwo : c.toNat ≠ 92 := fun same => notBackslash (Char.toNat_inj.mp same)
    rw [Bytes.utf8EncodeChar_of_lt small, List.mem_singleton] at member
    have same : byte.toNat = c.toNat := by
      rw [member, UInt8.toNat_ofNat', Nat.mod_eq_of_lt (by omega)]
    rw [Plain, same]
    exact ⟨notThirtyFour, notNinetyTwo, visible⟩
  · have high : 128 ≤ byte.toNat :=
      Bytes.le_of_mem_utf8EncodeChar (Nat.le_of_not_lt small) member
    refine ⟨?_, ?_, ?_⟩ <;> omega

theorem textBytes_escaped (c : Char) (collected rest : Bytes) :
    textBytes collected (ofChars (escaped c) ++ rest) =
      textBytes ((String.utf8EncodeChar c).reverse ++ collected) rest := by
  rcases escaped_cases c with
    ⟨letter, written, -, letterSmall, small, short⟩ | ⟨written, control⟩ |
      ⟨written, notQuote, notBackslash, visible⟩
  · rw [written, ofChars_short letterSmall, Bytes.utf8EncodeChar_of_lt small]
    exact textBytes_cons_of_escape (escape_short short rest) collected
  · have read := escape_number control rest
    rw [Char.ofNat_toNat] at read
    rw [written, ofChars_number control]
    exact textBytes_cons_of_escape read collected
  · have plain : ∀ byte ∈ String.utf8EncodeChar c, Plain byte := fun _ member =>
      plain_of_mem_utf8EncodeChar notQuote notBackslash visible member
    rw [written, Bytes.ofChars_cons, Bytes.ofChars_nil, List.append_nil]
    exact textBytes_append_of_plain plain collected rest

/-! ## Whole texts -/

theorem textBytes_written (characters : List Char) (collected rest : Bytes) :
    textBytes collected (ofChars (characters.flatMap escaped ++ ['"']) ++ rest) =
      .ok (collected.reverse ++ ofChars characters, rest) := by
  induction characters generalizing collected with
  | nil =>
      have quote : ofChars ['"'] = [ascii '"'] := by decide
      rw [List.flatMap_nil, List.nil_append, quote, List.singleton_append,
        textBytes.eq_def]
      simp
  | cons c characters inductionHypothesis =>
      rw [List.flatMap_cons, List.append_assoc, Bytes.ofChars_append, List.append_assoc,
        textBytes_escaped, inductionHypothesis, Bytes.ofChars_cons]
      simp

/-- A written text is read back, whatever follows its closing quote. -/
theorem textBody_written (text : String) (rest : Bytes) :
    textBody (ofChars (text.toList.flatMap escaped ++ ['"']) ++ rest) =
      .ok (text, rest) := by
  simp only [textBody, textBytes_written, List.reverse_nil, List.nil_append, bind,
    Except.bind, ← Bytes.ofText_eq_ofChars, Bytes.toText?_ofText]
  rfl

theorem ofChars_writeText (text : String) :
    ofChars (writeText text) =
      ascii '"' :: ofChars (text.toList.flatMap escaped ++ ['"']) :=
  Bytes.ofChars_cons_of_lt (by decide)

/-! ## No controls -/

theorem visible_of_mem_escaped
    {c written : Char}
    (member : written ∈ escaped c) :
    ' ' ≤ written := by
  rcases escaped_cases c with
    ⟨letter, same, visible, -⟩ | ⟨same, control⟩ | ⟨same, -, -, visible⟩
  · simp only [same, List.mem_cons, List.not_mem_nil, or_false] at member
    rcases member with rfl | rfl
    · decide
    · exact visible
  · simp only [same, List.mem_cons, List.not_mem_nil, or_false] at member
    rcases member with rfl | rfl | rfl | rfl | rfl | rfl
    · decide
    · decide
    · decide
    · decide
    · exact (digit_bounds (by omega)).1
    · exact (digit_bounds (by omega)).1
  · rw [same, List.mem_singleton] at member
    rw [member]
    exact visible

theorem visible_of_mem_writeText
    {text : String}
    {written : Char}
    (member : written ∈ writeText text) :
    ' ' ≤ written := by
  simp only [writeText, List.mem_cons, List.mem_append, List.mem_flatMap,
    List.not_mem_nil, or_false] at member
  rcases member with rfl | ⟨c, -, escape⟩ | rfl
  · decide
  · exact visible_of_mem_escaped escape
  · decide

mutual

theorem visible_of_mem_write
    {written : Char} :
    {value : Value} →
      written ∈ value.write →
        ' ' ≤ written
  | .null, member => by
      simp only [Value.write, List.mem_cons, List.not_mem_nil, or_false] at member
      rcases member with rfl | rfl | rfl | rfl <;> decide
  | .flag true, member => by
      simp only [Value.write, List.mem_cons, List.not_mem_nil, or_false] at member
      rcases member with rfl | rfl | rfl | rfl <;> decide
  | .flag false, member => by
      simp only [Value.write, List.mem_cons, List.not_mem_nil, or_false] at member
      rcases member with rfl | rfl | rfl | rfl | rfl <;> decide
  | .number value, member => by
      rw [Value.write, Nat.toString_eq_repr, Nat.toList_repr] at member
      have digit : written.isDigit = true :=
        Nat.isDigit_of_mem_toDigits (by decide) (by decide) member
      have least : 48 ≤ written.toNat := by
        simp only [Char.isDigit, Bool.and_eq_true, decide_eq_true_eq] at digit
        exact digit.1
      exact Nat.le_trans (by decide) least
  | .text _, member => visible_of_mem_writeText member
  | .record [], member => by
      simp only [Value.write, List.mem_cons, List.not_mem_nil, or_false] at member
      rcases member with rfl | rfl <;> decide
  | .record ((name, value) :: members), member => by
      simp only [Value.write, List.mem_cons, List.mem_append] at member
      rcases member with rfl | inName | rfl | inValue | inRest
      · decide
      · exact visible_of_mem_writeText inName
      · decide
      · exact visible_of_mem_write inValue
      · exact visible_of_mem_writeRest inRest

theorem visible_of_mem_writeRest
    {written : Char} :
    {members : List (String × Value)} →
      written ∈ writeRest members →
        ' ' ≤ written
  | [], member => by
      rw [writeRest, List.mem_singleton] at member
      rw [member]
      decide
  | (name, value) :: members, member => by
      simp only [writeRest, List.mem_cons, List.mem_append] at member
      rcases member with rfl | inName | rfl | inValue | inRest
      · decide
      · exact visible_of_mem_writeText inName
      · decide
      · exact visible_of_mem_write inValue
      · exact visible_of_mem_writeRest inRest

end

end OrderCustody.Json
