import OrderCustody.Proofs.Json.Writing

namespace OrderCustody.Json

/-!
# No text spells two values

The grammar is a relation, and every value has many texts.  The other way round there is
no choice: passing over a value stops where it ends, whatever value it is taken for, and
inside of it every part is found again from its bytes.  So a text that spells a value says
all there is to know about it, its members and their order included.
-/

/-! ## Numbers -/

theorem Digits.eq_of_bytes
    {digits other : Digits}
    (same : digits.bytes = other.bytes) :
    digits = other := by
  cases digits
  cases other
  cases same
  rfl

/-- A run of digits ends where no digit follows. -/
theorem Digits.unique
    {digits other : Digits}
    {rest otherRest : Bytes}
    (stops : Undigited rest)
    (otherStops : Undigited otherRest)
    (same : digits.bytes ++ rest = other.bytes ++ otherRest) :
    digits = other ∧ rest = otherRest := by
  have taken := congrArg (List.takeWhile isDigit) same
  have dropped := congrArg (List.dropWhile isDigit) same
  rw [digits.takeWhile_append stops, other.takeWhile_append otherStops] at taken
  rw [digits.dropWhile_append stops, other.dropWhile_append otherStops] at dropped
  exact ⟨Digits.eq_of_bytes taken, dropped⟩

theorem Undigited.nil : Undigited [] :=
  Ended.nil.undigited

namespace Exponent

theorem isDigit_of_mem_sign (exponent : Exponent) :
    ∀ byte ∈ exponent.sign, (!isDigit byte) = true := by
  intro byte member
  rcases exponent.sign_cases with same | same | same <;> rw [same] at member
  · cases member
  · rw [List.mem_singleton.mp member]
    decide
  · rw [List.mem_singleton.mp member]
    decide

/-- The sign ends in front of the first digit. -/
theorem takeWhile_bytes (exponent : Exponent) :
    (exponent.sign ++ exponent.digits.bytes).takeWhile (fun byte => !isDigit byte) =
      exponent.sign := by
  obtain ⟨first, others, shape, digit⟩ := exponent.digits.bytes_eq_cons
  rw [List.takeWhile_append_of_pos exponent.isDigit_of_mem_sign, shape,
    List.takeWhile_cons, digit]
  exact List.append_nil _

theorem eq_of_bytes
    {exponent other : Exponent}
    (same : exponent.bytes = other.bytes) :
    exponent = other := by
  obtain ⟨letter, behind⟩ := List.cons.inj same
  have sign := congrArg (List.takeWhile fun byte => !isDigit byte) behind
  rw [exponent.takeWhile_bytes, other.takeWhile_bytes] at sign
  rw [sign] at behind
  have digits := Digits.eq_of_bytes (List.append_cancel_left behind)
  cases exponent
  cases other
  cases letter
  cases sign
  cases digits
  rfl

end Exponent

namespace Numeral

/-- The whole part ends before what follows it, and so does the fraction. -/
theorem undigited (numeral : Numeral) :
    Undigited numeral.exponentBytes ∧
      Undigited (numeral.fractionBytes ++ numeral.exponentBytes) := by
  simpa only [List.append_nil] using numeral.undigited_tail Undigited.nil

theorem head?_exponentBytes_ne (numeral : Numeral) :
    numeral.exponentBytes.head? ≠ some (ascii '.') := by
  cases shape : numeral.exponent with
  | none =>
      simp only [exponentBytes, shape, List.head?_nil, ne_eq, reduceCtorEq,
        not_false_eq_true]
  | some exponent =>
      simp only [exponentBytes, shape, Exponent.bytes, List.head?_cons, ne_eq,
        Option.some.injEq]
      exact exponent.letter_ne.2

theorem exponent_unique
    {numeral other : Numeral}
    (same : numeral.exponentBytes = other.exponentBytes) :
    numeral.exponent = other.exponent := by
  unfold exponentBytes at same
  cases shape : numeral.exponent with
  | none =>
      cases otherShape : other.exponent with
      | none => rfl
      | some =>
          rw [shape, otherShape] at same
          cases same
  | some exponent =>
      cases otherShape : other.exponent with
      | none =>
          rw [shape, otherShape] at same
          cases same
      | some =>
          rw [shape, otherShape] at same
          rw [Exponent.eq_of_bytes same]

/-- A fraction is there exactly where a point is. -/
theorem fraction_unique
    {numeral other : Numeral}
    (same :
      numeral.fractionBytes ++ numeral.exponentBytes =
        other.fractionBytes ++ other.exponentBytes) :
    numeral.fraction = other.fraction ∧ numeral.exponent = other.exponent := by
  cases shape : numeral.fraction with
  | none =>
      cases otherShape : other.fraction with
      | none =>
          simp only [fractionBytes, shape, otherShape, List.nil_append] at same
          exact ⟨rfl, exponent_unique same⟩
      | some digits =>
          simp only [fractionBytes, shape, otherShape, List.nil_append] at same
          exact absurd (congrArg List.head? same) numeral.head?_exponentBytes_ne
  | some digits =>
      cases otherShape : other.fraction with
      | none =>
          simp only [fractionBytes, shape, otherShape, List.nil_append] at same
          exact absurd (congrArg List.head? same.symm) other.head?_exponentBytes_ne
      | some otherDigits =>
          simp only [fractionBytes, shape, otherShape, List.cons_append] at same
          obtain ⟨rfl, behind⟩ :=
            Digits.unique numeral.undigited.1 other.undigited.1 (List.cons.inj same).2
          exact ⟨rfl, exponent_unique behind⟩

theorem negative_eq (numeral : Numeral) :
    numeral.negative = decide (numeral.bytes.head? = some (ascii '-')) := by
  cases negative : numeral.negative with
  | true =>
      simp only [bytes, sign, negative, ↓reduceIte, List.cons_append, List.head?_cons,
        decide_true]
  | false =>
      obtain ⟨first, others, shape, digit⟩ := numeral.whole.bytes_eq_cons
      have notMinus : first ≠ ascii '-' := by
        rintro rfl
        exact absurd digit (by decide)
      simp only [bytes, sign, negative, Bool.false_eq_true, ↓reduceIte, List.nil_append,
        body, shape, List.cons_append, List.head?_cons, Option.some.injEq, notMinus,
        decide_false]

/-- A number is all that its digits say. -/
theorem eq_of_bytes
    {numeral other : Numeral}
    (same : numeral.bytes = other.bytes) :
    numeral = other := by
  have negative : numeral.negative = other.negative := by
    rw [numeral.negative_eq, other.negative_eq, same]
  have bodies : numeral.body = other.body := by
    simp only [bytes, sign, negative] at same
    exact List.append_cancel_left same
  obtain ⟨whole, behind⟩ := Digits.unique numeral.undigited.2 other.undigited.2 bodies
  obtain ⟨fraction, exponent⟩ := fraction_unique behind
  cases numeral
  cases other
  cases negative
  cases whole
  cases fraction
  cases exponent
  rfl

end Numeral

/-! ## Texts and separators -/

/-- A text ends with its first quote that is not escaped. -/
theorem Piece.closed_unique
    {pieces others : List Piece}
    {rest otherRest : Bytes}
    (same : closed pieces ++ rest = closed others ++ otherRest) :
    text? pieces = text? others ∧ rest = otherRest := by
  have skipped := congrArg skipText same
  rw [skipText_closed, skipText_closed] at skipped
  cases skipped
  have read := congrArg (fun bytes => (textBody bytes).toOption) same
  simp only [textBody_closed] at read
  exact ⟨Option.map_injective (fun _ _ pair => (Prod.mk.inj pair).1) read, rfl⟩

/-- What stands behind the separator in front of an element or a member. -/
def behindSeparator : (first : Bool) → Bytes → Bytes
  | true, bytes => skipBlanks bytes
  | false, bytes => skipBlanks (skipBlanks bytes).tail

section Separators

variable
  {first : Bool}
  {gap rest : Bytes}
  {byte : UInt8}

theorem Separator.behind
    (separator : Separator first gap)
    (visible : isBlank byte = false) :
    behindSeparator first (gap ++ byte :: rest) = byte :: rest := by
  cases separator with
  | start blanks => exact skipBlanks_append_cons blanks visible rest
  | comma before after =>
      have commaVisible : isBlank (ascii ',') = false := by decide
      rw [List.append_assoc, List.cons_append, behindSeparator,
        skipBlanks_append_cons before commaVisible, List.tail_cons,
        skipBlanks_append_cons after visible]

/-- What goes on does not end. -/
theorem Separator.goesOn
    {closing : UInt8}
    (separator : Separator first gap)
    (visible : isBlank byte = false)
    (other : byte ≠ closing)
    (notComma : closing ≠ ascii ',') :
    (skipBlanks (gap ++ byte :: rest)).head? ≠ some closing := by
  cases separator with
  | start blanks =>
      rw [skipBlanks_append_cons blanks visible]
      exact fun same => other (Option.some.inj same)
  | comma before after =>
      have commaVisible : isBlank (ascii ',') = false := by decide
      rw [List.append_assoc, List.cons_append, skipBlanks_append_cons before commaVisible]
      exact fun same => notComma (Option.some.inj same).symm

theorem Blanks.ends
    (blanks : Blanks gap)
    (closing : UInt8)
    (visible : isBlank closing = false) :
    (skipBlanks (gap ++ [closing])).head? = some closing := by
  rw [skipBlanks_append_cons blanks visible]
  rfl

end Separators

/-! ## Values -/

theorem Tree.Opens.eq_flag
    {tree : Tree}
    (value : Bool)
    (opens : tree.Opens (ascii (if value then 't' else 'f'))) :
    tree = .flag value := by
  cases tree with
  | flag other => cases other <;> cases value <;> first | rfl | cases opens
  | null => cases value <;> cases opens
  | number => cases value <;> rcases opens with same | digit <;> contradiction
  | text => cases value <;> cases opens
  | list => cases value <;> cases opens
  | object => cases value <;> cases opens

theorem Spelled.opens_of_cons
    {tree : Tree}
    {byte : UInt8}
    {rest : Bytes}
    (spelled : Spelled (.value tree) (byte :: rest)) :
    tree.Opens byte := by
  obtain ⟨first, others, shape, opens⟩ := spelled.opens
  cases shape
  exact opens

theorem Spelled.elements_ended
    {elements : List Tree}
    {bytes : Bytes}
    (spelled : Spelled (.elements false elements) bytes) :
    Ended bytes := by
  simpa only [List.append_nil] using spelled.ended_elements []

theorem Spelled.members_ended
    {members : List (Option String × Tree)}
    {bytes : Bytes}
    (spelled : Spelled (.members false members) bytes) :
    Ended bytes := by
  simpa only [List.append_nil] using spelled.ended_members []

/-- A value ends at the same place for every reader. -/
theorem Spelled.bytes_unique
    {tree other : Tree}
    {bytes otherBytes rest otherRest : Bytes}
    (spelled : Spelled (.value tree) bytes)
    (ended : Ended rest)
    (otherSpelled : Spelled (.value other) otherBytes)
    (otherEnded : Ended otherRest)
    (same : bytes ++ rest = otherBytes ++ otherRest) :
    bytes = otherBytes ∧ rest = otherRest := by
  have passed := skipValue_spelled .nil spelled ended
  have otherPassed := skipValue_spelled .nil otherSpelled otherEnded
  rw [List.nil_append] at passed otherPassed
  rw [same, otherPassed] at passed
  cases passed
  exact ⟨List.append_cancel_right same, rfl⟩

/-- The part is all that these bytes spell. -/
def Part.Only : Part → Bytes → Prop
  | .value tree, bytes => ∀ other, Spelled (.value other) bytes → other = tree
  | .elements first trees, bytes =>
      ∀ others, Spelled (.elements first others) bytes → others = trees
  | .members first named, bytes =>
      ∀ others, Spelled (.members first others) bytes → others = named

theorem Numeral.only (numeral : Numeral) :
    (Part.value (.number numeral)).Only numeral.bytes := by
  intro other spelled
  obtain ⟨byte, rest, shape, digit⟩ := numeral.bytes_eq_cons
  obtain ⟨otherNumeral, rfl⟩ := ((shape ▸ spelled).opens_of_cons).eq_number digit
  generalize same : numeral.bytes = bytes at spelled
  cases spelled with
  | number => rw [eq_of_bytes same]

theorem Part.Only.text {pieces : List Piece} :
    (Part.value (.text (Piece.text? pieces))).Only (ascii '"' :: Piece.closed pieces) := by
  intro other spelled
  obtain ⟨content, rfl⟩ := spelled.opens_of_cons.eq_text
  generalize same : ascii '"' :: Piece.closed pieces = bytes at spelled
  cases spelled with
  | text stands =>
      have closed := congrArg (· ++ []) (List.cons.inj same).2
      rw [← stands, (Piece.closed_unique closed).1]

/-- An element is found again behind its separator, and with it the others. -/
theorem Part.Only.element
    {first : Bool}
    {gap bytes rest : Bytes}
    {tree : Tree}
    {elements : List Tree}
    (separator : Separator first gap)
    (value : Spelled (.value tree) bytes)
    (more : Spelled (.elements false elements) rest)
    (onlyValue : (Part.value tree).Only bytes)
    (onlyMore : (Part.elements false elements).Only rest) :
    (Part.elements first (tree :: elements)).Only (gap ++ (bytes ++ rest)) := by
  intro others spelled
  obtain ⟨byte, behind, shape, opens⟩ := value.opens
  obtain ⟨visible, -, notClosing, -⟩ := opens.inner
  have start : bytes ++ rest = byte :: (behind ++ rest) := by rw [shape, List.cons_append]
  generalize same : gap ++ (bytes ++ rest) = all at spelled
  cases spelled with
  | endOfList blanks =>
      have closes := blanks.ends (ascii ']') (by decide)
      rw [← same, start] at closes
      exact absurd closes (separator.goesOn visible notClosing (by decide))
  | element otherSeparator otherValue otherMore =>
      obtain ⟨otherByte, otherBehind, otherShape, otherOpens⟩ := otherValue.opens
      have found := congrArg (behindSeparator first) same
      rw [start, separator.behind visible, ← start, otherShape, List.cons_append,
        otherSeparator.behind otherOpens.inner.1, ← List.cons_append, ← otherShape] at found
      obtain ⟨rfl, rfl⟩ :=
        value.bytes_unique more.elements_ended otherValue otherMore.elements_ended found
      rw [onlyValue _ otherValue, onlyMore _ otherMore]

/-- A member is found again behind its separator: its name, its value and the others. -/
theorem Part.Only.member
    {first : Bool}
    {gap before after bytes rest : Bytes}
    {pieces : List Piece}
    {tree : Tree}
    {members : List (Option String × Tree)}
    (separator : Separator first gap)
    (blanksBefore : Blanks before)
    (blanksAfter : Blanks after)
    (value : Spelled (.value tree) bytes)
    (more : Spelled (.members false members) rest)
    (onlyValue : (Part.value tree).Only bytes)
    (onlyMore : (Part.members false members).Only rest) :
    (Part.members first ((Piece.text? pieces, tree) :: members)).Only
      (gap ++ ascii '"' :: (Piece.closed pieces ++
        (before ++ ascii ':' :: (after ++ (bytes ++ rest))))) := by
  intro others spelled
  have quoteVisible : isBlank (ascii '"') = false := by decide
  generalize same :
    gap ++ ascii '"' :: (Piece.closed pieces ++
      (before ++ ascii ':' :: (after ++ (bytes ++ rest)))) = all at spelled
  cases spelled with
  | endOfObject blanks =>
      have closes := blanks.ends (ascii '}') (by decide)
      rw [← same] at closes
      exact absurd closes (separator.goesOn quoteVisible (by decide) (by decide))
  | member otherSeparator stands otherBefore otherAfter otherValue otherMore =>
      have found := congrArg (behindSeparator first) same
      rw [separator.behind quoteVisible, otherSeparator.behind quoteVisible] at found
      obtain ⟨names, colons⟩ := Piece.closed_unique (List.cons.inj found).2
      have values := congrArg colon colons
      rw [colon_append blanksBefore, colon_append otherBefore] at values
      have lined := congrArg skipBlanks (Except.ok.inj values)
      rw [value.skipBlanks_eq blanksAfter, otherValue.skipBlanks_eq otherAfter] at lined
      obtain ⟨rfl, rfl⟩ :=
        value.bytes_unique more.members_ended otherValue otherMore.members_ended lined
      rw [← stands, names, onlyValue _ otherValue, onlyMore _ otherMore]

/-- The grammar leaves no choice: the first byte tells the kind of a value, and a list or an
object can be followed from separator to separator. -/
theorem Spelled.only
    {part : Part}
    {bytes : Bytes}
    (spelled : Spelled part bytes) :
    part.Only bytes := by
  induction spelled with
  | null => exact fun other spelled => spelled.opens_of_cons.eq_null
  | flagTrue => exact fun other spelled => spelled.opens_of_cons.eq_flag true
  | flagFalse => exact fun other spelled => spelled.opens_of_cons.eq_flag false
  | number numeral => exact numeral.only
  | text stands => exact stands ▸ .text
  | list _ only =>
      intro other spelled
      obtain ⟨others, rfl⟩ := spelled.opens_of_cons.eq_list
      cases spelled with
      | list inside => rw [only _ inside]
  | object _ only =>
      intro other spelled
      obtain ⟨others, rfl⟩ := spelled.opens_of_cons.eq_object
      cases spelled with
      | object inside => rw [only _ inside]
  | @endOfList first gap blanks =>
      intro others spelled
      have closes := blanks.ends (ascii ']') (by decide)
      generalize gap ++ [ascii ']'] = all at spelled closes
      cases spelled with
      | endOfList => rfl
      | element separator value =>
          obtain ⟨byte, behind, shape, opens⟩ := value.opens
          obtain ⟨visible, -, notClosing, -⟩ := opens.inner
          rw [shape, List.cons_append] at closes
          exact absurd closes (separator.goesOn visible notClosing (by decide))
  | element separator value more onlyValue onlyMore =>
      exact .element separator value more onlyValue onlyMore
  | @endOfObject first gap blanks =>
      intro others spelled
      have closes := blanks.ends (ascii '}') (by decide)
      generalize gap ++ [ascii '}'] = all at spelled closes
      cases spelled with
      | endOfObject => rfl
      | member separator =>
          exact absurd closes (separator.goesOn (by decide) (by decide) (by decide))
  | member separator stands blanksBefore blanksAfter value more onlyValue onlyMore =>
      exact stands ▸ .member separator blanksBefore blanksAfter value more onlyValue onlyMore

/-! ## Whole texts -/

/-- A text spells one value and no other. -/
def Denotes (text : Bytes) (tree : Tree) : Prop :=
  ∀ other : Tree, other.HasText text ↔ other = tree

/-- Whatever a text spells, it spells nothing else. -/
theorem Tree.HasText.denotes
    {tree : Tree}
    {text : Bytes}
    (hasText : tree.HasText text) :
    Denotes text tree := by
  obtain ⟨before, bytes, after, blanksBefore, spelled, blanksAfter, shape⟩ := hasText
  intro other
  constructor
  · rintro ⟨otherBefore, otherBytes, otherAfter, otherBlanksBefore, otherSpelled,
      otherBlanksAfter, otherShape⟩
    have ended {gap : Bytes} (blanks : Blanks gap) : Ended gap := by
      simpa only [List.append_nil] using blanks.ended_append .nil
    have lined := congrArg skipBlanks (shape.symm.trans otherShape)
    rw [spelled.skipBlanks_eq blanksBefore, otherSpelled.skipBlanks_eq otherBlanksBefore]
      at lined
    obtain ⟨rfl, -⟩ := spelled.bytes_unique (ended blanksAfter) otherSpelled
      (ended otherBlanksAfter) lined
    exact spelled.only _ otherSpelled
  · rintro rfl
    exact ⟨before, bytes, after, blanksBefore, spelled, blanksAfter, shape⟩

/-- What is written for a value spells that value alone. -/
theorem Value.denotes_render (value : Value) :
    Denotes (Bytes.ofText value.render) value.tree := by
  have bytes : Bytes.ofText value.render = [] ++ (Bytes.ofChars value.write ++ []) := by
    rw [Value.render, Bytes.ofText_ofList, List.nil_append, List.append_nil]
  exact Tree.HasText.denotes ⟨[], _, [], .nil, spelled_value value, .nil, bytes⟩

end OrderCustody.Json
