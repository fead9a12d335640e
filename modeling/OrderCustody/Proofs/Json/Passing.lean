import OrderCustody.Proofs.Json.Syntax

namespace OrderCustody.Json

/-!
# Unread values are passed over

Passing over a value stops right behind it, whatever it is and however deep it nests.
The loop is followed value by value: what opens in the course of one is closed before its
end, so that the frames that were open before it are open behind it, and no value takes
more rounds than it has bytes.
-/

/-! ## Texts and numbers -/

theorem skipText_append_of_plain
    {bytes : Bytes}
    (plain : ∀ byte ∈ bytes, Plain byte)
    (rest : Bytes) :
    skipText (bytes ++ rest) = skipText rest := by
  induction bytes with
  | nil => rfl
  | cons byte bytes inductionHypothesis =>
      obtain ⟨notQuote, notBackslash, visible⟩ := plain byte List.mem_cons_self
      have other : byte ≠ ascii '"' := fun same => notQuote (congrArg UInt8.toNat same)
      have noEscape : byte ≠ ascii '\\' := fun same =>
        notBackslash (congrArg UInt8.toNat same)
      have noControl : ¬ byte < 0x20 := Nat.not_lt_of_le visible
      rw [List.cons_append, skipText.eq_def]
      simp only [other, noEscape, noControl, ↓reduceIte]
      exact inductionHypothesis fun other member =>
        plain other (List.mem_cons_of_mem _ member)

theorem skipText_cons_of_escape
    {after rest : Bytes}
    (skipped : skipEscape after = .ok rest) :
    skipText (ascii '\\' :: after) = skipText rest := by
  have noQuote : ascii '\\' ≠ ascii '"' := by decide
  rw [skipText.eq_def]
  simp only [noQuote, ↓reduceIte]
  split
  · next failed =>
      rw [skipped] at failed
      cases failed
  · next passed =>
      rw [skipped] at passed
      cases passed
      rfl

theorem hexEscape_cons
    {a b c d : UInt8}
    {value : Nat}
    (stands : fourDigits a b c d = .ok value)
    (rest : Bytes) :
    hexEscape (a :: b :: c :: d :: rest) = .ok (value, rest) := by
  simp only [hexEscape, stands, bind, Except.bind]
  rfl

theorem skipText_piece (piece : Piece) (rest : Bytes) :
    skipText (piece.bytes ++ rest) = skipText rest := by
  cases piece with
  | plain c notQuote notBackslash visible =>
      exact skipText_append_of_plain Piece.bytes_plain rest
  | short letter byte stands =>
      have skipped : skipEscape (letter :: rest) = .ok rest := by
        simp only [skipEscape, stands, Option.isSome_some, ↓reduceIte]
      exact skipText_cons_of_escape skipped
  | number a b c d value stands =>
      have notShort : simpleEscape? (ascii 'u') = none := by decide
      have skipped : skipEscape (ascii 'u' :: a :: b :: c :: d :: rest) = .ok rest := by
        simp only [skipEscape, notShort, Option.isSome_none, Bool.false_eq_true,
          ↓reduceIte, hexEscape_cons stands]
      exact skipText_cons_of_escape skipped

theorem skipText_closed (pieces : List Piece) (rest : Bytes) :
    skipText (Piece.closed pieces ++ rest) = .ok rest := by
  induction pieces with
  | nil =>
      change skipText (ascii '"' :: rest) = .ok rest
      rw [skipText.eq_def]
      simp only [↓reduceIte]
  | cons piece pieces inductionHypothesis =>
      rw [Piece.closed_cons, skipText_piece, inductionHypothesis]

theorem skipDigits_append
    (digits : Digits)
    {rest : Bytes}
    (stops : Undigited rest) :
    skipDigits (digits.bytes ++ rest) = .ok rest := by
  obtain ⟨first, others, shape, digit⟩ := digits.bytes_eq_cons
  have dropped := digits.dropWhile_append stops
  rw [shape, List.cons_append] at dropped ⊢
  rw [List.dropWhile_cons, if_pos digit] at dropped
  simp only [skipDigits, digit, ↓reduceIte, dropped]

theorem skipExponent_append
    (exponent : Exponent)
    {rest : Bytes}
    (stops : Undigited rest) :
    skipExponent (exponent.bytes ++ rest) = .ok rest := by
  have skipped := skipDigits_append exponent.digits stops
  rw [Exponent.bytes, List.cons_append, List.append_assoc]
  simp only [skipExponent, exponent.letter_cases, ↓reduceIte]
  rcases exponent.sign_cases with same | same | same <;> rw [same]
  · obtain ⟨first, others, shape, digit⟩ := exponent.digits.bytes_eq_cons
    have noSign : ¬ (first = ascii '+' ∨ first = ascii '-') := by
      rintro (rfl | rfl) <;> exact absurd digit (by decide)
    rw [shape] at skipped ⊢
    simp only [List.nil_append, List.cons_append, noSign, ↓reduceIte]
    exact skipped
  · simpa only [List.singleton_append, true_or, ↓reduceIte] using skipped
  · simpa only [List.singleton_append, or_true, ↓reduceIte] using skipped

theorem skipExponent_of_ended
    {rest : Bytes}
    (ended : Ended rest) :
    skipExponent rest = .ok rest := by
  cases rest with
  | nil => rfl
  | cons byte rest =>
      have noLetter : ¬ (byte = ascii 'e' ∨ byte = ascii 'E') := by
        have ends := ended byte rfl
        rintro (rfl | rfl) <;> exact absurd ends (by decide)
      simp only [skipExponent, noLetter, ↓reduceIte]

theorem skipExponent_numeral
    (numeral : Numeral)
    {rest : Bytes}
    (ended : Ended rest) :
    skipExponent (numeral.exponentBytes ++ rest) = .ok rest := by
  cases shape : numeral.exponent with
  | none =>
      simpa only [Numeral.exponentBytes, shape, List.nil_append] using
        skipExponent_of_ended ended
  | some exponent =>
      simpa only [Numeral.exponentBytes, shape] using
        skipExponent_append exponent ended.undigited

theorem skipFraction_of_ne
    {rest : Bytes}
    (noPoint : ∀ byte ∈ rest.head?, byte ≠ ascii '.') :
    skipFraction rest = skipExponent rest := by
  cases rest with
  | nil => rfl
  | cons byte rest => simp only [skipFraction, noPoint byte rfl, ↓reduceIte]

theorem skipFraction_numeral
    (numeral : Numeral)
    {rest : Bytes}
    (ended : Ended rest) :
    skipFraction (numeral.fractionBytes ++ (numeral.exponentBytes ++ rest)) = .ok rest := by
  have exponent := skipExponent_numeral numeral ended
  cases shape : numeral.fraction with
  | some digits =>
      have digitsSkipped :=
        skipDigits_append digits (numeral.undigited_tail ended.undigited).1
      simp only [Numeral.fractionBytes, shape, List.cons_append, skipFraction,
        ↓reduceIte, digitsSkipped, exponent]
  | none =>
      have noPoint :
          ∀ byte ∈ (numeral.exponentBytes ++ rest).head?, byte ≠ ascii '.' := by
        intro byte isFirst
        cases power : numeral.exponent with
        | some exponent =>
            simp only [Numeral.exponentBytes, power, Exponent.bytes, List.cons_append,
              List.head?_cons, Option.mem_some_iff] at isFirst
            exact isFirst ▸ exponent.letter_ne.2
        | none =>
            simp only [Numeral.exponentBytes, power, List.nil_append] at isFirst
            have ends := ended byte isFirst
            rintro rfl
            exact absurd ends (by decide)
      rw [Numeral.fractionBytes, shape]
      exact (skipFraction_of_ne noPoint).trans exponent

theorem skipNumber_body
    (numeral : Numeral)
    {rest : Bytes}
    (ended : Ended rest) :
    skipNumber (numeral.body ++ rest) = .ok rest := by
  let behind := numeral.fractionBytes ++ (numeral.exponentBytes ++ rest)
  have stops : Undigited behind := (numeral.undigited_tail ended.undigited).2
  have skipped : skipFraction behind = .ok rest := skipFraction_numeral numeral ended
  have bytes : numeral.body ++ rest = numeral.whole.bytes ++ behind := by
    simp only [Numeral.body, behind, List.append_assoc]
  obtain ⟨first, others, shape, digit⟩ := numeral.whole.bytes_eq_cons
  by_cases zero : first = ascii '0'
  · have alone : numeral.whole.bytes = [ascii '0'] :=
      numeral.lone_zero (by rw [shape, zero]; rfl)
    rw [bytes, alone, List.singleton_append]
    generalize behind = behind at stops skipped
    cases behind with
    | nil =>
        cases skipped
        rfl
    | cons next behind =>
        simp only [skipNumber, ↓reduceIte, stops next rfl, Bool.false_eq_true, skipped]
  · have dropped := numeral.whole.dropWhile_append stops
    rw [shape, List.cons_append, List.dropWhile_cons, if_pos digit] at dropped
    rw [bytes, shape, List.cons_append]
    simp only [skipNumber, zero, ↓reduceIte, digit, dropped, skipped]

/-! ## The loop -/

/-- How the loop goes on from where a round has come to. -/
def goOn (steps : Nat) : Except Cause (List Frame × Bytes) → Except Cause Bytes
  | .error cause => .error cause
  | .ok ([], rest) => .ok rest
  | .ok (frame :: frames, rest) => skipValues steps (frame :: frames) rest

theorem skipValues_succ (steps : Nat) (stack : List Frame) (bytes : Bytes) :
    skipValues (steps + 1) stack bytes =
      goOn steps (skipAtom stack (skipBlanks bytes)) := by
  rw [skipValues]
  rcases skipAtom stack (skipBlanks bytes) with cause | ⟨_ | ⟨frame, frames⟩, rest⟩ <;> rfl

/-- From inside a list or an object, the loop comes behind its end. -/
def Leaves (frame : Frame) (first : Bool) (bytes : Bytes) : Prop :=
  ∃ values ≤ bytes.length, ∀ steps stack rest,
    goOn (steps + values) (closeFrames (!first) (frame :: stack) (bytes ++ rest)) =
      goOn steps (closeFrames true stack rest)

/-- What a part means for the loop: it comes behind a value, or out of what the part is
the rest of. -/
def Part.Passed : Part → Bytes → Prop
  | .value _, bytes =>
      ∃ values < bytes.length, ∀ steps stack rest,
        Ended rest →
          goOn (steps + values) (skipAtom stack (bytes ++ rest)) =
            goOn steps (closeFrames true stack rest)
  | .elements first _, bytes => Leaves .list first bytes
  | .members first _, bytes => Leaves .object first bytes

theorem Frame.closing_not_blank (frame : Frame) : isBlank frame.closing = false := by
  cases frame <;> decide

/-- The end of a list or an object closes its frame. -/
theorem Leaves.done
    (frame : Frame)
    (first : Bool)
    {gap : Bytes}
    (blanks : Blanks gap) :
    Leaves frame first (gap ++ [frame.closing]) := by
  refine ⟨0, Nat.zero_le _, fun steps stack rest => ?_⟩
  rw [List.append_assoc, List.singleton_append, closeFrames,
    skipBlanks_append_cons blanks frame.closing_not_blank]
  simp only [↓reduceIte, Nat.add_zero]

/-- Behind what separates it from the value before, the frame's next key is read. -/
theorem closeFrames_separator
    {first : Bool}
    {gap : Bytes}
    (separator : Separator first gap)
    {byte : UInt8}
    (visible : isBlank byte = false)
    {frame : Frame}
    (goesOn : byte ≠ frame.closing) :
    ∃ lead,
      Blanks lead ∧
        ∀ stack rest,
          closeFrames (!first) (frame :: stack) (gap ++ byte :: rest) =
            (skipKey frame (lead ++ byte :: rest)).map fun after =>
              (frame :: stack, after) := by
  cases separator with
  | start blanks =>
      refine ⟨[], .nil, fun stack rest => ?_⟩
      rw [closeFrames, skipBlanks_append_cons blanks visible]
      simp only [goesOn, ↓reduceIte, Bool.not_true, Bool.not_false]
      rfl
  | @comma before after blanks blanksAfter =>
      refine ⟨after, blanksAfter, fun stack rest => ?_⟩
      have commaVisible : isBlank (ascii ',') = false := by decide
      have notClosing : ascii ',' ≠ frame.closing := by cases frame <;> decide
      rw [List.append_assoc, List.cons_append, closeFrames,
        skipBlanks_append_cons blanks commaVisible]
      simp only [notClosing, ↓reduceIte, Bool.not_true, Bool.not_false,
        Bool.false_eq_true]
      rfl

/-- One more value in a list or an object, behind its key. -/
theorem Leaves.next
    {frame : Frame}
    {first : Bool}
    {tree : Tree}
    {lead bytes rest : Bytes}
    (value : (Part.value tree).Passed bytes)
    (visible : ∃ byte others, bytes = byte :: others ∧ isBlank byte = false)
    (ended : ∀ others, Ended (rest ++ others))
    (leaves : Leaves frame false rest)
    (key : ∃ after,
      Blanks after ∧
        ∀ stack others,
          closeFrames (!first) (frame :: stack) (lead ++ (bytes ++ rest) ++ others) =
            .ok (frame :: stack, after ++ (bytes ++ (rest ++ others)))) :
    Leaves frame first (lead ++ (bytes ++ rest)) := by
  obtain ⟨valueRounds, valueFew, passed⟩ := value
  obtain ⟨restRounds, restFew, left⟩ := leaves
  obtain ⟨after, blanks, opened⟩ := key
  obtain ⟨byte, tail, shape, byteVisible⟩ := visible
  refine ⟨restRounds + valueRounds + 1, ?_, fun steps stack others => ?_⟩
  · simp only [List.length_append]
    omega
  · have atValue : skipBlanks (after ++ (bytes ++ (rest ++ others))) =
        bytes ++ (rest ++ others) := by
      rw [shape, List.cons_append, skipBlanks_append_cons blanks byteVisible]
    calc
      goOn (steps + (restRounds + valueRounds + 1))
          (closeFrames (!first) (frame :: stack) (lead ++ (bytes ++ rest) ++ others))
        = skipValues (steps + restRounds + valueRounds + 1) (frame :: stack)
            (after ++ (bytes ++ (rest ++ others))) := by
          rw [opened, ← Nat.add_assoc, ← Nat.add_assoc]
          rfl
      _ = goOn (steps + restRounds + valueRounds)
            (skipAtom (frame :: stack) (bytes ++ (rest ++ others))) := by
          rw [skipValues_succ, atValue]
      _ = goOn (steps + restRounds)
            (closeFrames true (frame :: stack) (rest ++ others)) :=
          passed _ _ _ (ended others)
      _ = goOn steps (closeFrames true stack others) :=
          left _ _ _

theorem colon_append
    {gap : Bytes}
    (blanks : Blanks gap)
    (rest : Bytes) :
    colon (gap ++ ascii ':' :: rest) = .ok rest := by
  have colonVisible : isBlank (ascii ':') = false := by decide
  simp only [colon, skipBlanks_append_cons blanks colonVisible, ↓reduceIte]

/-- A value that is passed over in one go takes no further round. -/
theorem Part.Passed.atom
    {tree : Tree}
    {bytes : Bytes}
    (some : bytes ≠ [])
    (passes : ∀ stack rest, Ended rest →
      skipAtom stack (bytes ++ rest) = closeFrames true stack rest) :
    (Part.value tree).Passed bytes :=
  ⟨0, List.length_pos_iff.mpr some, fun steps stack rest ended => by
    rw [passes stack rest ended, Nat.add_zero]⟩

theorem skipAtom_minus
    {bytes rest : Bytes}
    (skipped : skipNumber bytes = .ok rest)
    (stack : List Frame) :
    skipAtom stack (ascii '-' :: bytes) = closeFrames true stack rest := by
  have notNull : ascii '-' ≠ ascii 'n' := by decide
  have notTrue : ascii '-' ≠ ascii 't' := by decide
  have notFalse : ascii '-' ≠ ascii 'f' := by decide
  simp only [skipAtom, notNull, notTrue, notFalse, ↓reduceIte, skipped]

theorem skipAtom_quote
    {bytes rest : Bytes}
    (skipped : skipText bytes = .ok rest)
    (stack : List Frame) :
    skipAtom stack (ascii '"' :: bytes) = closeFrames true stack rest := by
  have notNull : ascii '"' ≠ ascii 'n' := by decide
  have notTrue : ascii '"' ≠ ascii 't' := by decide
  have notFalse : ascii '"' ≠ ascii 'f' := by decide
  have notMinus : ascii '"' ≠ ascii '-' := by decide
  have notDigit : ¬ isDigit (ascii '"') := by decide
  simp only [skipAtom, notNull, notTrue, notFalse, notMinus, notDigit,
    Bool.false_eq_true, ↓reduceIte, skipped]

theorem Numeral.passed (numeral : Numeral) :
    (Part.value (.number numeral)).Passed numeral.bytes := by
  obtain ⟨byte, others, shape, -⟩ := numeral.bytes_eq_cons
  refine .atom (shape ▸ List.cons_ne_nil _ _) fun stack rest ended => ?_
  have skipped := skipNumber_body numeral ended
  cases negative : numeral.negative with
  | true =>
      simp only [Numeral.bytes, Numeral.sign, negative, ↓reduceIte, List.cons_append,
        List.nil_append, skipAtom_minus skipped]
  | false =>
      obtain ⟨first, others, whole, digit⟩ := numeral.whole.bytes_eq_cons
      obtain ⟨least, most⟩ := isDigit_iff.mp digit
      have notLetter (c : UInt8) (above : 57 < c.toNat) : first ≠ c := by
        rintro rfl
        omega
      have notMinus : first ≠ ascii '-' := by
        rintro rfl
        exact absurd least (by decide)
      simp only [Numeral.bytes, Numeral.sign, negative, Bool.false_eq_true, ↓reduceIte,
        List.nil_append]
      simp only [Numeral.body, whole, List.cons_append] at skipped ⊢
      simp only [skipAtom, notLetter (ascii 'n') (by decide),
        notLetter (ascii 't') (by decide), notLetter (ascii 'f') (by decide), notMinus,
        digit, ↓reduceIte, skipped]

/-- Whatever is spelled is passed over; a list or an object is left by closing its own
frame, once the loop has come behind each of its values. -/
theorem Spelled.passed
    {part : Part}
    {bytes : Bytes}
    (spelled : Spelled part bytes) :
    part.Passed bytes := by
  induction spelled with
  | null => exact .atom (by decide) fun _ _ _ => rfl
  | flagTrue => exact .atom (by decide) fun _ _ _ => rfl
  | flagFalse => exact .atom (by decide) fun _ _ _ => rfl
  | number numeral => exact numeral.passed
  | @text _ pieces =>
      refine .atom (List.cons_ne_nil _ _) fun stack rest _ => ?_
      exact skipAtom_quote (skipText_closed pieces rest) stack
  | list _ leaves =>
      obtain ⟨values, few, left⟩ := leaves
      exact ⟨values, Nat.lt_succ_of_le few, fun steps stack rest _ => left steps stack rest⟩
  | object _ leaves =>
      obtain ⟨values, few, left⟩ := leaves
      exact ⟨values, Nat.lt_succ_of_le few, fun steps stack rest _ => left steps stack rest⟩
  | @endOfList first _ blanks => exact .done .list first blanks
  | @endOfObject first _ blanks => exact .done .object first blanks
  | element separator value more valuePassed leaves =>
      obtain ⟨byte, others, shape, opens⟩ := value.opens
      obtain ⟨visible, -, notClosing, -⟩ := opens.inner
      have goesOn : byte ≠ Frame.list.closing := notClosing
      obtain ⟨lead, blanks, opened⟩ := closeFrames_separator separator visible goesOn
      refine .next valuePassed ⟨byte, others, shape, visible⟩ more.ended_elements leaves
        ⟨lead, blanks, fun stack rest => ?_⟩
      rw [shape, List.append_assoc, List.append_assoc, List.cons_append, opened]
      rfl
  | @member _ gap before after bytes rest _ pieces _ _ separator _ blanksBefore
      blanksAfter value more valuePassed leaves =>
      obtain ⟨byte, others, shape, opens⟩ := value.opens
      have quoteVisible : isBlank (ascii '"') = false := by decide
      have goesOn : ascii '"' ≠ Frame.object.closing := by decide
      obtain ⟨lead, blanks, opened⟩ :=
        closeFrames_separator separator quoteVisible goesOn
      let key := ascii '"' :: (Piece.closed pieces ++ (before ++ ascii ':' :: after))
      have bytesShape :
          gap ++ ascii '"' :: (Piece.closed pieces ++
              (before ++ ascii ':' :: (after ++ (bytes ++ rest)))) =
            (gap ++ key) ++ (bytes ++ rest) := by
        simp only [key, List.append_assoc, List.cons_append]
      rw [bytesShape]
      refine .next valuePassed ⟨byte, others, shape, opens.inner.1⟩ more.ended_members
        leaves ⟨after, blanksAfter, fun stack others => ?_⟩
      simp only [key, List.append_assoc, List.cons_append]
      rw [opened]
      simp only [skipKey, skipBlanks_append_cons blanks quoteVisible, ↓reduceIte,
        skipText_closed, colon_append blanksBefore]
      rfl

/-- A value that is not asked for is passed over, whatever follows it. -/
theorem skipValue_spelled
    {tree : Tree}
    {gap bytes rest : Bytes}
    (blanks : Blanks gap)
    (spelled : Spelled (.value tree) bytes)
    (ended : Ended rest) :
    skipValue (gap ++ (bytes ++ rest)) = .ok rest := by
  obtain ⟨values, few, passed⟩ := spelled.passed
  have atValue := spelled.skipBlanks_eq blanks rest
  obtain ⟨steps, enough⟩ : ∃ steps, (gap ++ (bytes ++ rest)).length = steps + values :=
    Nat.exists_eq_add_of_le' (by simp only [List.length_append]; omega)
  rw [skipValue, skipValues_succ, atValue, enough, passed steps [] rest ended]
  rfl

end OrderCustody.Json
