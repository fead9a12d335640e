import OrderCustody.Proofs.Json.Record

namespace OrderCustody.Json

/-!
# The texts of a value

A value is a tree, and many byte strings spell it: blanks may stand between any two
tokens, and a character of a text may stand for itself or be escaped.  `Spelled` is the
grammar.  A tree keeps the members of an object in the order in which they stand, also
those that stand there twice, and numbers with all their digits.  A text that escapes half
a character without its other half follows the grammar as well, but is none.
-/

open Bytes (ofChars)

/-! ## Blanks -/

/-- Bytes without a meaning. -/
def Blanks (gap : Bytes) : Prop :=
  ∀ byte ∈ gap, isBlank byte = true

instance (gap : Bytes) : Decidable (Blanks gap) :=
  List.decidableBAll (fun byte => isBlank byte = true) gap

theorem Blanks.nil : Blanks [] :=
  List.forall_mem_nil _

/-- What can follow a value: a blank, a comma, a closing bracket or the end. -/
def Ended (rest : Bytes) : Prop :=
  ∀ byte ∈ rest.head?,
    isBlank byte = true ∨ byte = ascii ',' ∨ byte = ascii ']' ∨ byte = ascii '}'

theorem skipBlanks_append
    {gap : Bytes}
    (blanks : Blanks gap)
    (rest : Bytes) :
    skipBlanks (gap ++ rest) = skipBlanks rest :=
  List.dropWhile_append_of_pos blanks

theorem skipBlanks_append_cons
    {gap : Bytes}
    {byte : UInt8}
    (blanks : Blanks gap)
    (visible : isBlank byte = false)
    (rest : Bytes) :
    skipBlanks (gap ++ byte :: rest) = byte :: rest := by
  rw [skipBlanks_append blanks, skipBlanks_cons visible]

theorem Ended.nil : Ended [] := by
  intro byte isFirst
  cases isFirst

theorem Blanks.ended_append
    {gap rest : Bytes}
    (blanks : Blanks gap)
    (ended : Ended rest) :
    Ended (gap ++ rest) := by
  cases gap with
  | nil => exact ended
  | cons first gap =>
      intro byte isFirst
      cases isFirst
      exact .inl (blanks _ List.mem_cons_self)

/-! ## Texts -/

/-- A piece of a text: a character that stands for itself, an escape of one letter, or
an escape of four hexadecimal digits. -/
inductive Piece where
  | plain (c : Char) (notQuote : c ≠ '"') (notBackslash : c ≠ '\\') (visible : ' ' ≤ c)
  | short (letter byte : UInt8) (stands : simpleEscape? letter = some byte)
  | number (a b c d : UInt8) (value : Nat) (stands : fourDigits a b c d = .ok value)

namespace Piece

/-- The bytes of a piece. -/
def bytes : Piece → Bytes
  | plain c _ _ _ => String.utf8EncodeChar c
  | short letter _ _ => [ascii '\\', letter]
  | number a b c d _ _ => [ascii '\\', ascii 'u', a, b, c, d]

/-- The characters that pieces stand for, unless there is half a character among
them. -/
def decode : List Piece → Option (List Char)
  | [] => some []
  | plain c _ _ _ :: pieces => (decode pieces).map (c :: ·)
  | short _ byte _ :: pieces => (decode pieces).map (Char.ofNat byte.toNat :: ·)
  | number _ _ _ _ value _ :: pieces =>
      if 0xdc00 ≤ value ∧ value ≤ 0xdfff then none
      else if 0xd800 ≤ value ∧ value ≤ 0xdbff then
        match pieces with
        | number _ _ _ _ low _ :: pieces =>
            if 0xdc00 ≤ low ∧ low ≤ 0xdfff then
              (decode pieces).map
                (Char.ofNat (0x10000 + 1024 * (value - 0xd800) + (low - 0xdc00)) :: ·)
            else none
        | _ => none
      else (decode pieces).map (Char.ofNat value :: ·)

/-- The text that pieces spell, if it is one. -/
def text? (pieces : List Piece) : Option String :=
  (decode pieces).map String.ofList

/-- Pieces with the quote that ends them. -/
def closed (pieces : List Piece) : Bytes :=
  pieces.flatMap bytes ++ [ascii '"']

theorem closed_cons (piece : Piece) (pieces : List Piece) (rest : Bytes) :
    closed (piece :: pieces) ++ rest = piece.bytes ++ (closed pieces ++ rest) := by
  simp only [closed, List.flatMap_cons, List.append_assoc]

theorem closed_short
    {letter byte : UInt8}
    {stands : simpleEscape? letter = some byte}
    (pieces : List Piece)
    (rest : Bytes) :
    closed (short letter byte stands :: pieces) ++ rest =
      ascii '\\' :: letter :: (closed pieces ++ rest) :=
  closed_cons _ _ _

theorem closed_number
    {a b c d : UInt8}
    {value : Nat}
    {stands : fourDigits a b c d = .ok value}
    (pieces : List Piece)
    (rest : Bytes) :
    closed (number a b c d value stands :: pieces) ++ rest =
      ascii '\\' :: ascii 'u' :: a :: b :: c :: d :: (closed pieces ++ rest) :=
  closed_cons _ _ _

theorem bytes_plain
    {c : Char}
    {notQuote : c ≠ '"'}
    {notBackslash : c ≠ '\\'}
    {visible : ' ' ≤ c} :
    ∀ byte ∈ (plain c notQuote notBackslash visible).bytes, Plain byte :=
  fun _ member => plain_of_mem_utf8EncodeChar notQuote notBackslash visible member

end Piece

/-! ## Numbers -/

/-- A run of digits. -/
structure Digits where
  bytes : Bytes
  ne_nil : bytes ≠ []
  isDigit_of_mem : ∀ byte ∈ bytes, isDigit byte = true

/-- The exponent of a number. -/
structure Exponent where
  letter : UInt8
  sign : Bytes
  digits : Digits
  letter_cases : letter = ascii 'e' ∨ letter = ascii 'E'
  sign_cases : sign = [] ∨ sign = [ascii '+'] ∨ sign = [ascii '-']

/-- A number as it is spelled.  Only a lone zero starts with one. -/
structure Numeral where
  negative : Bool
  whole : Digits
  fraction : Option Digits
  exponent : Option Exponent
  lone_zero : whole.bytes.head? = some (ascii '0') → whole.bytes = [ascii '0']

/-- The bytes of an exponent. -/
def Exponent.bytes (exponent : Exponent) : Bytes :=
  exponent.letter :: (exponent.sign ++ exponent.digits.bytes)

namespace Numeral

/-- The sign of a number, if it is below zero. -/
def sign (numeral : Numeral) : Bytes :=
  if numeral.negative then [ascii '-'] else []

/-- The fraction behind its point, if there is one. -/
def fractionBytes (numeral : Numeral) : Bytes :=
  match numeral.fraction with
  | some digits => ascii '.' :: digits.bytes
  | none => []

/-- The exponent, if there is one. -/
def exponentBytes (numeral : Numeral) : Bytes :=
  match numeral.exponent with
  | some exponent => exponent.bytes
  | none => []

/-- The digits without the sign. -/
def body (numeral : Numeral) : Bytes :=
  numeral.whole.bytes ++ (numeral.fractionBytes ++ numeral.exponentBytes)

/-- The bytes of a number. -/
def bytes (numeral : Numeral) : Bytes :=
  numeral.sign ++ numeral.body

/-- The value of a number that has nothing but digits. -/
def natural? (numeral : Numeral) : Option Nat :=
  if numeral.negative ∨ numeral.fraction.isSome ∨ numeral.exponent.isSome then none
  else some (digitsValue numeral.whole.bytes)

end Numeral

theorem isDigit_iff {byte : UInt8} :
    isDigit byte = true ↔ 48 ≤ byte.toNat ∧ byte.toNat ≤ 57 := by
  simp only [isDigit, Bool.and_eq_true, decide_eq_true_eq]
  exact Iff.rfl

/-- Bytes that do not go on with a digit. -/
def Undigited (rest : Bytes) : Prop :=
  ∀ byte ∈ rest.head?, isDigit byte = false

theorem Ended.undigited
    {rest : Bytes}
    (ended : Ended rest) :
    Undigited rest := by
  intro byte isFirst
  rcases ended byte isFirst with blank | rfl | rfl | rfl
  · simp only [isBlank, Bool.or_eq_true, beq_iff_eq] at blank
    rcases blank with ((rfl | rfl) | rfl) | rfl <;> decide
  · decide
  · decide
  · decide

namespace Digits

theorem bytes_eq_cons (digits : Digits) :
    ∃ first others, digits.bytes = first :: others ∧ isDigit first = true := by
  obtain ⟨first, others, shape⟩ := List.exists_cons_of_ne_nil digits.ne_nil
  exact ⟨first, others, shape, digits.isDigit_of_mem first (shape ▸ List.mem_cons_self)⟩

theorem takeWhile_append
    (digits : Digits)
    {rest : Bytes}
    (stops : Undigited rest) :
    (digits.bytes ++ rest).takeWhile isDigit = digits.bytes := by
  rw [List.takeWhile_append_of_pos digits.isDigit_of_mem]
  cases rest with
  | nil => simp only [List.takeWhile_nil, List.append_nil]
  | cons byte rest =>
      simp only [List.takeWhile_cons, stops byte rfl, Bool.false_eq_true, ↓reduceIte,
        List.append_nil]

theorem dropWhile_append
    (digits : Digits)
    {rest : Bytes}
    (stops : Undigited rest) :
    (digits.bytes ++ rest).dropWhile isDigit = rest := by
  rw [List.dropWhile_append_of_pos digits.isDigit_of_mem]
  cases rest with
  | nil => rfl
  | cons byte rest =>
      simp only [List.dropWhile_cons, stops byte rfl, Bool.false_eq_true, ↓reduceIte]

end Digits

theorem Exponent.letter_ne (exponent : Exponent) :
    isDigit exponent.letter = false ∧ exponent.letter ≠ ascii '.' := by
  rcases exponent.letter_cases with same | same <;> rw [same] <;> decide

/-- A whole part goes on with what is no digit. -/
theorem Numeral.undigited_tail
    (numeral : Numeral)
    {rest : Bytes}
    (stops : Undigited rest) :
    Undigited (numeral.exponentBytes ++ rest) ∧
      Undigited (numeral.fractionBytes ++ (numeral.exponentBytes ++ rest)) := by
  have exponentStops : Undigited (numeral.exponentBytes ++ rest) := by
    cases shape : numeral.exponent with
    | none => simpa only [Numeral.exponentBytes, shape, List.nil_append] using stops
    | some exponent =>
        intro byte isFirst
        simp only [Numeral.exponentBytes, shape, Exponent.bytes, List.cons_append,
          List.head?_cons, Option.mem_some_iff] at isFirst
        exact isFirst ▸ exponent.letter_ne.1
  refine ⟨exponentStops, ?_⟩
  cases shape : numeral.fraction with
  | none => simpa only [Numeral.fractionBytes, shape, List.nil_append] using exponentStops
  | some digits =>
      intro byte isFirst
      simp only [Numeral.fractionBytes, shape, List.cons_append, List.head?_cons,
        Option.mem_some_iff] at isFirst
      exact isFirst ▸ by decide

/-! ## Values -/

/-- A value.  Names and other texts are missing where they are no texts. -/
inductive Tree where
  | null
  | flag (value : Bool)
  | number (numeral : Numeral)
  | text (text : Option String)
  | list (elements : List Tree)
  | object (members : List (Option String × Tree))

/-- What is spelled: a value, or what a list or an object still holds, up to and with
its end.  `first` says whether nothing came before. -/
inductive Part where
  | value (tree : Tree)
  | elements (first : Bool) (elements : List Tree)
  | members (first : Bool) (members : List (Option String × Tree))

/-- What stands in front of an element or a member. -/
inductive Separator : (first : Bool) → Bytes → Prop where
  | start {gap : Bytes} : Blanks gap → Separator true gap
  | comma {before after : Bytes} :
      Blanks before → Blanks after → Separator false (before ++ ascii ',' :: after)

/-- The grammar: a part and the bytes that spell it. -/
inductive Spelled : Part → Bytes → Prop where
  | null : Spelled (.value .null) (['n', 'u', 'l', 'l'].map ascii)
  | flagTrue : Spelled (.value (.flag true)) (['t', 'r', 'u', 'e'].map ascii)
  | flagFalse : Spelled (.value (.flag false)) (['f', 'a', 'l', 's', 'e'].map ascii)
  | number (numeral : Numeral) : Spelled (.value (.number numeral)) numeral.bytes
  | text {text : Option String} {pieces : List Piece} :
      Piece.text? pieces = text →
        Spelled (.value (.text text)) (ascii '"' :: Piece.closed pieces)
  | list {elements : List Tree} {bytes : Bytes} :
      Spelled (.elements true elements) bytes →
        Spelled (.value (.list elements)) (ascii '[' :: bytes)
  | object {members : List (Option String × Tree)} {bytes : Bytes} :
      Spelled (.members true members) bytes →
        Spelled (.value (.object members)) (ascii '{' :: bytes)
  | endOfList {first : Bool} {gap : Bytes} :
      Blanks gap → Spelled (.elements first []) (gap ++ [ascii ']'])
  | element
      {first : Bool}
      {gap bytes rest : Bytes}
      {tree : Tree}
      {elements : List Tree} :
      Separator first gap →
        Spelled (.value tree) bytes →
          Spelled (.elements false elements) rest →
            Spelled (.elements first (tree :: elements)) (gap ++ (bytes ++ rest))
  | endOfObject {first : Bool} {gap : Bytes} :
      Blanks gap → Spelled (.members first []) (gap ++ [ascii '}'])
  | member
      {first : Bool}
      {gap before after bytes rest : Bytes}
      {name : Option String}
      {pieces : List Piece}
      {tree : Tree}
      {members : List (Option String × Tree)} :
      Separator first gap →
        Piece.text? pieces = name →
          Blanks before →
            Blanks after →
              Spelled (.value tree) bytes →
                Spelled (.members false members) rest →
                  Spelled (.members first ((name, tree) :: members))
                    (gap ++ ascii '"' :: (Piece.closed pieces ++
                      (before ++ ascii ':' :: (after ++ (bytes ++ rest)))))

/-- A whole text of a value, with blanks around it. -/
def Tree.HasText (tree : Tree) (text : Bytes) : Prop :=
  ∃ before bytes after,
    Blanks before ∧
      Spelled (.value tree) bytes ∧
        Blanks after ∧
          text = before ++ (bytes ++ after)

/-! ## First bytes -/

/-- The bytes that a value can start with. -/
def Tree.Opens : Tree → UInt8 → Prop
  | .null, byte => byte = ascii 'n'
  | .flag true, byte => byte = ascii 't'
  | .flag false, byte => byte = ascii 'f'
  | .number _, byte => byte = ascii '-' ∨ isDigit byte = true
  | .text _, byte => byte = ascii '"'
  | .list _, byte => byte = ascii '['
  | .object _, byte => byte = ascii '{'

theorem Numeral.bytes_eq_cons (numeral : Numeral) :
    ∃ byte rest,
      numeral.bytes = byte :: rest ∧ (byte = ascii '-' ∨ isDigit byte = true) := by
  obtain ⟨first, others, whole, digit⟩ := numeral.whole.bytes_eq_cons
  cases negative : numeral.negative with
  | true =>
      refine ⟨ascii '-', numeral.body, ?_, .inl rfl⟩
      simp only [Numeral.bytes, Numeral.sign, negative, ↓reduceIte, List.singleton_append]
  | false =>
      refine ⟨first, others ++ (numeral.fractionBytes ++ numeral.exponentBytes), ?_,
        .inr digit⟩
      simp only [Numeral.bytes, Numeral.sign, negative, Bool.false_eq_true, ↓reduceIte,
        List.nil_append, Numeral.body, whole, List.cons_append]

theorem Spelled.opens
    {tree : Tree}
    {bytes : Bytes}
    (spelled : Spelled (.value tree) bytes) :
    ∃ byte rest, bytes = byte :: rest ∧ tree.Opens byte := by
  cases spelled with
  | null => exact ⟨_, _, rfl, rfl⟩
  | flagTrue => exact ⟨_, _, rfl, rfl⟩
  | flagFalse => exact ⟨_, _, rfl, rfl⟩
  | number numeral => exact numeral.bytes_eq_cons
  | text => exact ⟨_, _, rfl, rfl⟩
  | list => exact ⟨_, _, rfl, rfl⟩
  | object => exact ⟨_, _, rfl, rfl⟩

/-! The first byte of a value tells of which kind it is. -/

theorem Tree.Opens.eq_null
    {tree : Tree}
    (opens : tree.Opens (ascii 'n')) :
    tree = .null := by
  cases tree with
  | null => rfl
  | flag value => cases value <;> cases opens
  | number => rcases opens with same | digit <;> contradiction
  | text => cases opens
  | list => cases opens
  | object => cases opens

theorem Tree.Opens.eq_text
    {tree : Tree}
    (opens : tree.Opens (ascii '"')) :
    ∃ text, tree = .text text := by
  cases tree with
  | text text => exact ⟨text, rfl⟩
  | null => cases opens
  | flag value => cases value <;> cases opens
  | number => rcases opens with same | digit <;> contradiction
  | list => cases opens
  | object => cases opens

theorem Tree.Opens.eq_list
    {tree : Tree}
    (opens : tree.Opens (ascii '[')) :
    ∃ elements, tree = .list elements := by
  cases tree with
  | list elements => exact ⟨elements, rfl⟩
  | null => cases opens
  | flag value => cases value <;> cases opens
  | number => rcases opens with same | digit <;> contradiction
  | text => cases opens
  | object => cases opens

theorem Tree.Opens.eq_object
    {tree : Tree}
    (opens : tree.Opens (ascii '{')) :
    ∃ members, tree = .object members := by
  cases tree with
  | object members => exact ⟨members, rfl⟩
  | null => cases opens
  | flag value => cases value <;> cases opens
  | number => rcases opens with same | digit <;> contradiction
  | text => cases opens
  | list => cases opens

theorem Tree.Opens.eq_number
    {tree : Tree}
    {byte : UInt8}
    (opens : tree.Opens byte)
    (digit : byte = ascii '-' ∨ isDigit byte = true) :
    ∃ numeral, tree = .number numeral := by
  cases tree with
  | number numeral => exact ⟨numeral, rfl⟩
  | flag value =>
      cases value <;> cases opens <;> exact absurd digit (by decide)
  | null =>
      cases opens
      exact absurd digit (by decide)
  | text =>
      cases opens
      exact absurd digit (by decide)
  | list =>
      cases opens
      exact absurd digit (by decide)
  | object =>
      cases opens
      exact absurd digit (by decide)

/-- No value starts with a blank, a comma or the end of a list or an object. -/
theorem Tree.Opens.inner
    {tree : Tree}
    {byte : UInt8}
    (opens : tree.Opens byte) :
    isBlank byte = false ∧
      byte ≠ ascii ',' ∧ byte ≠ ascii ']' ∧ byte ≠ ascii '}' := by
  have digit (isOne : isDigit byte = true) :
      isBlank byte = false ∧
        byte ≠ ascii ',' ∧ byte ≠ ascii ']' ∧ byte ≠ ascii '}' := by
    obtain ⟨least, most⟩ := isDigit_iff.mp isOne
    refine ⟨?_, ?_, ?_, ?_⟩
    · have other (blank : UInt8) (below : blank.toNat < 48) : (byte == blank) = false := by
        rw [beq_eq_false_iff_ne]
        rintro rfl
        omega
      simp only [isBlank, other 0x20 (by decide), other 0x09 (by decide),
        other 0x0a (by decide), other 0x0d (by decide), Bool.or_self]
    · rintro rfl
      exact absurd least (by decide)
    · rintro rfl
      exact absurd most (by decide)
    · rintro rfl
      exact absurd most (by decide)
  cases tree with
  | null => exact opens ▸ by decide
  | flag value => cases value <;> exact opens ▸ by decide
  | number numeral =>
      rcases opens with rfl | isOne
      · decide
      · exact digit isOne
  | text => exact opens ▸ by decide
  | list => exact opens ▸ by decide
  | object => exact opens ▸ by decide

theorem Ended.cons
    {byte : UInt8}
    (ends : byte = ascii ',' ∨ byte = ascii ']' ∨ byte = ascii '}')
    (rest : Bytes) :
    Ended (byte :: rest) := by
  intro first isFirst
  cases isFirst
  exact .inr ends

theorem Separator.ended
    {gap : Bytes}
    (separator : Separator false gap)
    (rest : Bytes) :
    Ended (gap ++ rest) := by
  cases separator with
  | comma before after =>
      rw [List.append_assoc, List.cons_append]
      exact before.ended_append (.cons (.inl rfl) _)

/-- Nothing but blanks comes before the first byte of a value. -/
theorem Spelled.skipBlanks_eq
    {tree : Tree}
    {gap bytes : Bytes}
    (spelled : Spelled (.value tree) bytes)
    (blanks : Blanks gap)
    (rest : Bytes) :
    skipBlanks (gap ++ (bytes ++ rest)) = bytes ++ rest := by
  obtain ⟨byte, others, rfl, opens⟩ := spelled.opens
  exact skipBlanks_append_cons blanks opens.inner.1 _

/-- What is left of a list behind an element. -/
theorem Spelled.ended_elements
    {elements : List Tree}
    {bytes : Bytes}
    (spelled : Spelled (.elements false elements) bytes)
    (rest : Bytes) :
    Ended (bytes ++ rest) := by
  cases spelled with
  | endOfList blanks =>
      rw [List.append_assoc]
      exact blanks.ended_append (.cons (.inr (.inl rfl)) _)
  | element separator =>
      rw [List.append_assoc]
      exact separator.ended _

/-- What is left of an object behind a member. -/
theorem Spelled.ended_members
    {members : List (Option String × Tree)}
    {bytes : Bytes}
    (spelled : Spelled (.members false members) bytes)
    (rest : Bytes) :
    Ended (bytes ++ rest) := by
  cases spelled with
  | endOfObject blanks =>
      rw [List.append_assoc]
      exact blanks.ended_append (.cons (.inr (.inr rfl)) _)
  | member separator =>
      rw [List.append_assoc]
      exact separator.ended _

/-- What is left of an object behind a member goes on with its end or with a comma. -/
theorem Spelled.skipBlanks_members
    {members : List (Option String × Tree)}
    {bytes : Bytes}
    (spelled : Spelled (.members false members) bytes)
    (rest : Bytes) :
    (members = [] ∧ skipBlanks (bytes ++ rest) = ascii '}' :: rest) ∨
      (members ≠ [] ∧ ∃ others, skipBlanks (bytes ++ rest) = ascii ',' :: others) := by
  have closeVisible : isBlank (ascii '}') = false := by decide
  have commaVisible : isBlank (ascii ',') = false := by decide
  cases spelled with
  | endOfObject blanks =>
      refine .inl ⟨rfl, ?_⟩
      rw [List.append_assoc, List.singleton_append,
        skipBlanks_append_cons blanks closeVisible]
  | member separator =>
      cases separator with
      | comma before after =>
          refine .inr ⟨List.cons_ne_nil _ _, ?_⟩
          rw [List.append_assoc, List.append_assoc, List.cons_append,
            skipBlanks_append_cons before commaVisible]
          exact ⟨_, rfl⟩

/-! ## A text for every value -/

theorem fourDigits_of_control
    {value : Nat}
    (control : value < 32) :
    fourDigits (ascii '0') (ascii '0') (ascii (Hex.digit (value / 16)))
      (ascii (Hex.digit (value % 16))) = .ok value := by
  have zero : Hex.value? (Char.ofNat (ascii '0').toNat) = some 0 := by decide
  have tensSmall : value / 16 < 16 := by omega
  have onesSmall : value % 16 < 16 := by omega
  have whole : 4096 * 0 + 256 * 0 + 16 * (value / 16) + value % 16 = value := by omega
  simp only [fourDigits, zero, value?_ascii_digit tensSmall, value?_ascii_digit onesSmall,
    whole]

namespace Piece

/-- A piece for a character, which stands for itself where it can. -/
def ofChar (c : Char) : Piece :=
  if quote : c = '"' then .short (ascii '"') 0x22 rfl
  else if backslash : c = '\\' then .short (ascii '\\') 0x5c rfl
  else if visible : ' ' ≤ c then .plain c quote backslash visible
  else
    have control : c.toNat < 32 := Char.not_le.mp visible
    .number (ascii '0') (ascii '0') (ascii (Hex.digit (c.toNat / 16)))
      (ascii (Hex.digit (c.toNat % 16))) c.toNat (fourDigits_of_control control)

/-- Pieces for a text, or half a character for none. -/
def ofText? : Option String → List Piece
  | some text => text.toList.map ofChar
  | none => [.number (ascii 'd') (ascii '8') (ascii '0') (ascii '0') 0xd800 rfl]

/-- A control character may be written by its number. -/
theorem decode_cons_control
    {a b c d : UInt8}
    {character : Char}
    (control : character.toNat < 32)
    (stands : fourDigits a b c d = .ok character.toNat)
    (pieces : List Piece) :
    decode (.number a b c d character.toNat stands :: pieces) =
      (decode pieces).map (character :: ·) := by
  have notLow : ¬ (0xdc00 ≤ character.toNat ∧ character.toNat ≤ 0xdfff) := by omega
  have notHigh : ¬ (0xd800 ≤ character.toNat ∧ character.toNat ≤ 0xdbff) := by omega
  rw [decode.eq_def]
  simp only [notLow, notHigh, ↓reduceIte, Char.ofNat_toNat]

theorem decode_cons_ofChar (c : Char) (pieces : List Piece) :
    decode (ofChar c :: pieces) = (decode pieces).map (c :: ·) := by
  unfold ofChar
  split
  · next quote =>
      subst quote
      rfl
  · split
    · next backslash =>
        subst backslash
        rfl
    · split
      · rfl
      · next visible => exact decode_cons_control (Char.not_le.mp visible) _ pieces

theorem text?_ofText? (text : Option String) : text? (ofText? text) = text := by
  have decoded (characters : List Char) :
      decode (characters.map ofChar) = some characters := by
    induction characters with
    | nil => rfl
    | cons c characters inductionHypothesis =>
        rw [List.map_cons, decode_cons_ofChar, inductionHypothesis, Option.map_some]
  cases text with
  | none => rfl
  | some text => simp only [ofText?, text?, decoded, Option.map_some, String.ofList_toList]

end Piece

/-- What stands in front of a value in a list or an object. -/
def separator (gap : Bytes) (first : Bool) : Bytes :=
  if first then gap else gap ++ ascii ',' :: gap

mutual

/-- A text of a value, with the same gap wherever there can be one. -/
def Tree.write (gap : Bytes) : Tree → Bytes
  | .null => ['n', 'u', 'l', 'l'].map ascii
  | .flag true => ['t', 'r', 'u', 'e'].map ascii
  | .flag false => ['f', 'a', 'l', 's', 'e'].map ascii
  | .number numeral => numeral.bytes
  | .text text => ascii '"' :: Piece.closed (Piece.ofText? text)
  | .list elements => ascii '[' :: writeElements gap true elements
  | .object members => ascii '{' :: writeMembers gap true members

/-- The elements of a list and its end. -/
def writeElements (gap : Bytes) (first : Bool) : List Tree → Bytes
  | [] => gap ++ [ascii ']']
  | tree :: elements =>
      separator gap first ++ (tree.write gap ++ writeElements gap false elements)

/-- The members of an object and its end. -/
def writeMembers (gap : Bytes) (first : Bool) : List (Option String × Tree) → Bytes
  | [] => gap ++ [ascii '}']
  | (name, tree) :: members =>
      separator gap first ++ ascii '"' :: (Piece.closed (Piece.ofText? name) ++
        (gap ++ ascii ':' :: (gap ++ (tree.write gap ++
          writeMembers gap false members))))

end

theorem separator_spec
    {gap : Bytes}
    (blanks : Blanks gap)
    (first : Bool) :
    Separator first (separator gap first) := by
  cases first with
  | true => exact .start blanks
  | false => exact .comma blanks blanks

mutual

/-- Every value has a text. -/
theorem spelled_write
    {gap : Bytes}
    (blanks : Blanks gap) :
    (tree : Tree) → Spelled (.value tree) (tree.write gap)
  | .null => .null
  | .flag true => .flagTrue
  | .flag false => .flagFalse
  | .number numeral => .number numeral
  | .text text => .text (Piece.text?_ofText? text)
  | .list elements => .list (spelled_writeElements blanks true elements)
  | .object members => .object (spelled_writeMembers blanks true members)

theorem spelled_writeElements
    {gap : Bytes}
    (blanks : Blanks gap)
    (first : Bool) :
    (elements : List Tree) →
      Spelled (.elements first elements) (writeElements gap first elements)
  | [] => .endOfList blanks
  | tree :: elements =>
      .element (separator_spec blanks first) (spelled_write blanks tree)
        (spelled_writeElements blanks false elements)

theorem spelled_writeMembers
    {gap : Bytes}
    (blanks : Blanks gap)
    (first : Bool) :
    (members : List (Option String × Tree)) →
      Spelled (.members first members) (writeMembers gap first members)
  | [] => .endOfObject blanks
  | (name, tree) :: members =>
      .member (separator_spec blanks first) (Piece.text?_ofText? name) blanks blanks
        (spelled_write blanks tree) (spelled_writeMembers blanks false members)

end

/-- The text with a gap wherever there can be one, and blanks around it. -/
theorem Tree.hasText_write
    {before gap after : Bytes}
    (blanksBefore : Blanks before)
    (blanks : Blanks gap)
    (blanksAfter : Blanks after)
    (tree : Tree) :
    tree.HasText (before ++ (tree.write gap ++ after)) :=
  ⟨before, tree.write gap, after, blanksBefore, spelled_write blanks tree, blanksAfter, rfl⟩

end OrderCustody.Json
