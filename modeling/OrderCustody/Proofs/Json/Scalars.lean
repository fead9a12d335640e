import OrderCustody.Proofs.Json.Passing

namespace OrderCustody.Json

/-!
# Texts and numbers are read by what they spell

Reading the pieces of a text yields the characters that they stand for, however they are
escaped, and is refused exactly where they are no text.  Of the numbers those are natural
that have nothing but digits, as long as their value stays below `2 ^ 64`; the others are
rounded, negative or refused.
-/

open Bytes (ofChars)

theorem toOption_bind
    {ε α β : Type}
    (read : Except ε α)
    (next : α → Except ε β) :
    (read >>= next).toOption = read.toOption.bind fun value => (next value).toOption := by
  cases read <;> rfl

/-! ## Texts -/

theorem textBytes_cons_of_escape_error
    {after : Bytes}
    {cause : Cause}
    (refused : escape after = .error cause)
    (collected : Bytes) :
    textBytes collected (ascii '\\' :: after) = .error cause := by
  have noQuote : ascii '\\' ≠ ascii '"' := by decide
  rw [textBytes.eq_def]
  simp only [noQuote, ↓reduceIte]
  split
  · next failed =>
      rw [refused] at failed
      cases failed
      rfl
  · next taken =>
      rw [refused] at taken
      cases taken

theorem utf8EncodeChar_of_simpleEscape
    {letter byte : UInt8}
    (stands : simpleEscape? letter = some byte) :
    String.utf8EncodeChar (Char.ofNat byte.toNat) = [byte] := by
  unfold simpleEscape? at stands
  iterate 8
    split at stands
    · cases stands
      decide
  cases stands

/-- An escape of four digits, read from behind its backslash. -/
theorem escape_digits
    {a b c d : UInt8}
    {value : Nat}
    (stands : fourDigits a b c d = .ok value)
    (rest : Bytes) :
    escape (ascii 'u' :: a :: b :: c :: d :: rest) =
      if 0xdc00 ≤ value ∧ value ≤ 0xdfff then .error .loneSurrogate
      else if 0xd800 ≤ value ∧ value ≤ 0xdbff then lowSurrogate value rest
      else .ok (String.utf8EncodeChar (Char.ofNat value), rest) := by
  have notShort : simpleEscape? (ascii 'u') = none := by decide
  simp only [escape, notShort, hexEscape_cons stands, ne_eq, not_true_eq_false, ↓reduceIte,
    codePointBytes, Bytes.ofText_eq_ofChars, String.toList_singleton, Bytes.ofChars_cons,
    Bytes.ofChars_nil, List.append_nil]

theorem lowSurrogate_digits
    {a b c d : UInt8}
    {low : Nat}
    (stands : fourDigits a b c d = .ok low)
    (high : Nat)
    (rest : Bytes) :
    lowSurrogate high (ascii '\\' :: ascii 'u' :: a :: b :: c :: d :: rest) =
      if 0xdc00 ≤ low ∧ low ≤ 0xdfff then
        .ok (String.utf8EncodeChar
          (Char.ofNat (0x10000 + 1024 * (high - 0xd800) + (low - 0xdc00))), rest)
      else .error .loneSurrogate := by
  by_cases isLow : 0xdc00 ≤ low ∧ low ≤ 0xdfff
  · have inside : ¬ (low < 0xdc00 ∨ 0xdfff < low) := by omega
    simp only [lowSurrogate, hexEscape_cons stands, ne_eq, not_true_eq_false, ↓reduceIte,
      inside, isLow, and_self, codePointBytes, Bytes.ofText_eq_ofChars,
      String.toList_singleton, Bytes.ofChars_cons, Bytes.ofChars_nil, List.append_nil, bind,
      Except.bind]
    rfl
  · have outside : low < 0xdc00 ∨ 0xdfff < low := by omega
    simp only [lowSurrogate, hexEscape_cons stands, ne_eq, not_true_eq_false, ↓reduceIte,
      outside, isLow, bind, Except.bind]
    rfl

/-- The first half of a character is followed by the second one in an escape of four
digits, or there is no character. -/
theorem lowSurrogate_error
    {pieces : List Piece}
    (other : ∀ a b c d value stands more, pieces ≠ .number a b c d value stands :: more)
    (high : Nat)
    (rest : Bytes) :
    ∃ cause, lowSurrogate high (Piece.closed pieces ++ rest) = .error cause := by
  cases pieces with
  | nil => exact ⟨_, rfl⟩
  | cons piece pieces =>
      cases piece with
      | plain c notQuote notBackslash visible =>
          let piece := Piece.plain c notQuote notBackslash visible
          have positive : piece.bytes ≠ [] := by
            rw [← List.length_pos_iff]
            exact (String.length_utf8EncodeChar c).symm ▸ c.utf8Size_pos
          obtain ⟨first, others, shape⟩ := List.exists_cons_of_ne_nil positive
          have plain : Plain first :=
            Piece.bytes_plain first (shape ▸ List.mem_cons_self)
          have notBackslash : first ≠ ascii '\\' := fun same =>
            plain.2.1 (congrArg UInt8.toNat same)
          refine ⟨.endOfHexEscape, ?_⟩
          rw [Piece.closed_cons, shape]
          simp only [List.cons_append, lowSurrogate, ne_eq, notBackslash,
            not_false_eq_true, ↓reduceIte]
      | short letter byte stands =>
          have notDigits : letter ≠ ascii 'u' := by
            have notShort : simpleEscape? (ascii 'u') = none := by decide
            rintro rfl
            rw [notShort] at stands
            cases stands
          refine ⟨.endOfHexEscape, ?_⟩
          simp only [Piece.closed, List.flatMap_cons, Piece.bytes, List.cons_append,
            lowSurrogate, ne_eq, not_true_eq_false, ↓reduceIte, notDigits,
            not_false_eq_true]
      | number a b c d value stands => exact absurd rfl (other a b c d value stands pieces)

/-- A text is read as its pieces say: two halves of a character are read in one step, and a
half by itself, in front or behind, refuses the text. -/
theorem textBytes_closed (pieces : List Piece) (collected rest : Bytes) :
    (textBytes collected (Piece.closed pieces ++ rest)).toOption =
      (Piece.decode pieces).map fun characters =>
        (collected.reverse ++ ofChars characters, rest) := by
  induction pieces using Piece.decode.induct generalizing collected with
  | case1 =>
      change (textBytes collected (ascii '"' :: rest)).toOption = _
      rw [textBytes.eq_def]
      simp [Piece.decode, Except.toOption]
  | case2 c notQuote notBackslash visible pieces inductionHypothesis =>
      rw [Piece.closed_cons, textBytes_append_of_plain Piece.bytes_plain,
        inductionHypothesis, Piece.decode, Option.map_map]
      simp only [Piece.bytes, List.reverse_append, List.reverse_reverse, List.append_assoc,
        Function.comp_def, Bytes.ofChars_cons]
  | case3 letter byte stands pieces inductionHypothesis =>
      have read :
          escape (letter :: (Piece.closed pieces ++ rest)) =
            .ok ([byte], Piece.closed pieces ++ rest) := by
        simp only [escape, stands]
      rw [Piece.closed_short, textBytes_cons_of_escape read, inductionHypothesis,
        Piece.decode, Option.map_map]
      simp only [List.reverse_append, List.reverse_reverse, List.append_assoc,
        Function.comp_def, Bytes.ofChars_cons, utf8EncodeChar_of_simpleEscape stands]
  | case4 a b c d value stands pieces isLow =>
      have refused := escape_digits stands (Piece.closed pieces ++ rest)
      rw [if_pos isLow] at refused
      rw [Piece.closed_number, textBytes_cons_of_escape_error refused,
        Piece.decode.eq_def]
      simp only [isLow, and_self, ↓reduceIte]
      rfl
  | case5 a b c d high stands notLow isHigh e f g h low lowStands pieces isLow
      inductionHypothesis =>
      have read := escape_digits stands
        (Piece.closed (.number e f g h low lowStands :: pieces) ++ rest)
      rw [if_neg notLow, if_pos isHigh, Piece.closed_number, lowSurrogate_digits lowStands,
        if_pos isLow] at read
      rw [Piece.closed_number, Piece.closed_number, textBytes_cons_of_escape read,
        inductionHypothesis, Piece.decode.eq_def (_ :: _)]
      simp only [notLow, isHigh, isLow, and_self, ↓reduceIte, Option.map_map,
        List.reverse_append, List.reverse_reverse, List.append_assoc, Function.comp_def,
        Bytes.ofChars_cons]
  | case6 a b c d high stands notLow isHigh e f g h low lowStands pieces lowNotLow =>
      have refused := escape_digits stands
        (Piece.closed (.number e f g h low lowStands :: pieces) ++ rest)
      rw [if_neg notLow, if_pos isHigh, Piece.closed_number, lowSurrogate_digits lowStands,
        if_neg lowNotLow] at refused
      rw [Piece.closed_number, Piece.closed_number,
        textBytes_cons_of_escape_error refused, Piece.decode.eq_def]
      simp only [notLow, isHigh, lowNotLow, and_self, ↓reduceIte]
      rfl
  | case7 a b c d high stands pieces notLow isHigh other =>
      have refused := escape_digits stands (Piece.closed pieces ++ rest)
      obtain ⟨cause, low⟩ := lowSurrogate_error (fun _ _ _ _ _ _ _ => other _ _ _ _ _ _ _)
        high rest
      rw [if_neg notLow, if_pos isHigh, low] at refused
      rw [Piece.closed_number, textBytes_cons_of_escape_error refused,
        Piece.decode.eq_def]
      simp only [notLow, isHigh, and_self, ↓reduceIte]
      rfl
  | case8 a b c d value stands pieces notLow notHigh inductionHypothesis =>
      have read := escape_digits stands (Piece.closed pieces ++ rest)
      rw [if_neg notLow, if_neg notHigh] at read
      rw [Piece.closed_number, textBytes_cons_of_escape read, inductionHypothesis,
        Piece.decode.eq_def (_ :: _)]
      simp only [notLow, notHigh, ↓reduceIte, Option.map_map, List.reverse_append,
        List.reverse_reverse, List.append_assoc, Function.comp_def, Bytes.ofChars_cons]

/-- A text is read from its pieces, or refused with half a character among them. -/
theorem textBody_closed (pieces : List Piece) (rest : Bytes) :
    (textBody (Piece.closed pieces ++ rest)).toOption =
      (Piece.text? pieces).map fun text => (text, rest) := by
  rw [textBody, toOption_bind, textBytes_closed, Piece.text?]
  cases Piece.decode pieces with
  | none => rfl
  | some characters =>
      have unicode :
          Bytes.toText? (ofChars characters) = some (String.ofList characters) := by
        rw [← Bytes.ofText_ofList, Bytes.toText?_ofText]
      simp only [Option.map_some, Option.bind_some, List.reverse_nil, List.nil_append,
        unicode]
      rfl

/-! ## Numbers -/

/-- The value of a number that is no rounded one and not below zero. -/
def Number.natural? : Number → Option Nat
  | .natural value => some value
  | _ => none

/-- What a reader of numbers has read is no natural number. -/
def Unnatural (read : Except Cause (Number × Bytes)) : Prop :=
  ∀ number rest, read = .ok (number, rest) → number.natural? = none

theorem Unnatural.error (cause : Cause) : Unnatural (.error cause) := by
  intro number rest read
  cases read

theorem unnatural_rounded
    (negative : Bool)
    (value : Nat)
    (exponent : Int)
    (rest : Bytes) :
    Unnatural (do
      let number ← roundedNumber negative value exponent
      return (number, rest)) := by
  rw [roundedNumber]
  split
  · intro number after read
    cases read
    rfl
  · exact .error _

theorem unnatural_exponentPart
    (negative : Bool)
    (value : Nat)
    (start : Int)
    (bytes : Bytes) :
    Unnatural (exponentPart negative value start bytes) := by
  fun_cases exponentPart negative value start bytes with
  | case1 => exact .error _
  | case2 => exact .error _
  | case3 _ _ _ _ infinite _ _ _ huge =>
      dsimp only
      rw [if_pos huge, if_pos infinite]
      exact .error _
  | case4 _ _ _ _ finite _ _ _ huge =>
      dsimp only
      rw [if_pos huge, if_neg finite]
      intro number rest read
      cases read
      rfl
  | case5 _ _ _ _ _ _ _ small =>
      dsimp only
      rw [if_neg small]
      exact unnatural_rounded _ _ _ _

theorem unnatural_numberEnd
    (negative : Bool)
    (value : Nat)
    (exponent : Int)
    (bytes : Bytes) :
    Unnatural (numberEnd negative value exponent bytes) := by
  cases bytes with
  | nil => exact unnatural_rounded _ _ _ _
  | cons byte rest =>
      rw [numberEnd]
      split
      · exact unnatural_exponentPart _ _ _ _
      · exact unnatural_rounded _ _ _ _

theorem unnatural_fractionPart
    (negative : Bool)
    (value : Nat)
    (start : Int)
    (bytes : Bytes) :
    Unnatural (fractionPart negative value start bytes) := by
  unfold fractionPart
  dsimp only
  split
  · split <;> exact .error _
  · exact unnatural_numberEnd _ _ _ _

theorem le_foldl_digits (digits : Bytes) (value : Nat) :
    value ≤ digits.foldl (fun value byte => 10 * value + (byte.toNat - 48)) value := by
  induction digits generalizing value with
  | nil => exact Nat.le_refl _
  | cons byte digits inductionHypothesis =>
      have further := inductionHypothesis (10 * value + (byte.toNat - 48))
      rw [List.foldl_cons]
      omega

/-- A run of digits is taken as a whole exactly when its value stays below `2 ^ 64`. -/
theorem significand_cases (digits : Bytes) (value : Nat) :
    let whole := digits.foldl (fun value byte => 10 * value + (byte.toNat - 48)) value
    (significand value digits = (whole, []) ∧ (whole < UInt64.size ∨ digits = [])) ∨
      ((significand value digits).2 ≠ [] ∧ UInt64.size ≤ whole) := by
  induction digits generalizing value with
  | nil => exact .inl ⟨rfl, .inr rfl⟩
  | cons byte digits inductionHypothesis =>
      intro whole
      let next := 10 * value + (byte.toNat - 48)
      have grows : next ≤ whole := le_foldl_digits digits next
      by_cases fits : next < UInt64.size
      · have step : significand value (byte :: digits) = significand next digits := by
          simp only [significand, next, fits, ↓reduceIte]
        rw [step]
        rcases inductionHypothesis next with ⟨taken, below⟩ | left
        · refine .inl ⟨taken, .inl ?_⟩
          rcases below with below | rfl
          · exact below
          · exact fits
        · exact .inr left
      · have step : significand value (byte :: digits) = (value, byte :: digits) := by
          simp only [significand, next, fits, ↓reduceIte]
        exact .inr ⟨step ▸ List.cons_ne_nil _ _, Nat.le_trans (Nat.le_of_not_lt fits) grows⟩

/-- A number behind its whole part, of which `value` was taken and `left` was not. -/
def afterWhole (negative : Bool) (value : Nat) (left : Bytes) : Reader Number
  | [] =>
      if left.isEmpty then .ok (wholeNumber negative value, [])
      else numberEnd negative value left.length []
  | byte :: behind =>
      if byte = ascii '.' then fractionPart negative value left.length behind
      else if left.isEmpty ∧ ¬ (byte = ascii 'e' ∨ byte = ascii 'E') then
        .ok (wholeNumber negative value, byte :: behind)
      else numberEnd negative value left.length (byte :: behind)

theorem numberBody_body
    (negative : Bool)
    (numeral : Numeral)
    {rest : Bytes}
    (ended : Ended rest) :
    numberBody negative (numeral.body ++ rest) =
      afterWhole negative (significand 0 numeral.whole.bytes).1
        (significand 0 numeral.whole.bytes).2
        (numeral.fractionBytes ++ (numeral.exponentBytes ++ rest)) := by
  let behind := numeral.fractionBytes ++ (numeral.exponentBytes ++ rest)
  have stops : Undigited behind := (numeral.undigited_tail ended.undigited).2
  have bytes : numeral.body ++ rest = numeral.whole.bytes ++ behind := by
    simp only [Numeral.body, behind, List.append_assoc]
  obtain ⟨first, others, shape, digit⟩ := numeral.whole.bytes_eq_cons
  have taken := numeral.whole.takeWhile_append stops
  have dropped := numeral.whole.dropWhile_append stops
  have digits :
      (if first = ascii '0' then [first]
        else first :: (others ++ behind).takeWhile isDigit) = numeral.whole.bytes := by
    split
    · next zero =>
        rw [zero]
        exact (numeral.lone_zero (by rw [shape, zero]; rfl)).symm
    · rw [shape, List.cons_append, List.takeWhile_cons, if_pos digit] at taken
      rw [taken, shape]
  have after :
      (if first = ascii '0' then others ++ behind
        else (others ++ behind).dropWhile isDigit) = behind := by
    split
    · next zero =>
        have alone : numeral.whole.bytes = [ascii '0'] :=
          numeral.lone_zero (by rw [shape, zero]; rfl)
        rw [shape, zero] at alone
        cases alone
        rfl
    · rw [shape, List.cons_append, List.dropWhile_cons, if_pos digit] at dropped
      exact dropped
  rw [bytes, shape, List.cons_append]
  simp only [numberBody, digit, Bool.not_true, Bool.false_eq_true, ↓reduceIte, digits,
    after]
  rw [← shape]
  change _ = afterWhole _ _ _ behind
  generalize behind = behind at stops
  cases behind with
  | nil => rfl
  | cons byte behind =>
      simp only [stops byte rfl, Bool.false_eq_true, and_false, ↓reduceIte]
      rfl

/-- The natural number that has been read, if it is one. -/
def naturalRead (read : Except Cause (Number × Bytes)) : Option (Nat × Bytes) :=
  read.toOption.bind fun (number, rest) => number.natural?.map fun value => (value, rest)

theorem Unnatural.naturalRead
    {read : Except Cause (Number × Bytes)}
    (unnatural : Unnatural read) :
    naturalRead read = none := by
  rcases read with cause | ⟨number, rest⟩
  · rfl
  · simp only [Json.naturalRead, Except.toOption, Option.bind_some,
      unnatural number rest rfl, Option.map_none]

theorem naturalRead_wholeNumber (negative : Bool) (value : Nat) (rest : Bytes) :
    naturalRead (.ok (wholeNumber negative value, rest)) =
      if negative then none else some (value, rest) := by
  cases negative with
  | false => rfl
  | true =>
      have unnatural : (wholeNumber true value).natural? = none := by
        simp only [wholeNumber, Bool.not_true, Bool.false_eq_true, ↓reduceIte]
        split
        · rfl
        · split <;> rfl
      simp only [naturalRead, Except.toOption, Option.bind_some, unnatural,
        Option.map_none, ↓reduceIte]

/-- Without a fraction and an exponent, what is left of the digits decides. -/
theorem naturalRead_afterWhole
    (negative : Bool)
    (value : Nat)
    (left : Bytes)
    {rest : Bytes}
    (ended : Ended rest) :
    naturalRead (afterWhole negative value left rest) =
      if left.isEmpty ∧ ¬ negative then some (value, rest) else none := by
  by_cases taken : left.isEmpty = true
  · have whole : afterWhole negative value left rest =
        .ok (wholeNumber negative value, rest) := by
      cases rest with
      | nil => simp only [afterWhole, taken, ↓reduceIte]
      | cons byte rest =>
          have ends := ended byte rfl
          have noPoint : byte ≠ ascii '.' := by
            rintro rfl
            exact absurd ends (by decide)
          have noLetter : ¬ (byte = ascii 'e' ∨ byte = ascii 'E') := by
            rintro (rfl | rfl) <;> exact absurd ends (by decide)
          simp only [afterWhole, taken, noPoint, noLetter, not_false_eq_true, and_self,
            ↓reduceIte]
    rw [whole, naturalRead_wholeNumber]
    cases negative <;> simp [taken]
  · have unnatural : Unnatural (afterWhole negative value left rest) := by
      cases rest with
      | nil =>
          simp only [afterWhole, taken, Bool.false_eq_true, ↓reduceIte]
          exact unnatural_numberEnd _ _ _ _
      | cons byte rest =>
          rw [afterWhole]
          split
          · exact unnatural_fractionPart _ _ _ _
          · simp only [taken, Bool.false_eq_true, false_and, ↓reduceIte]
            exact unnatural_numberEnd _ _ _ _
    rw [unnatural.naturalRead]
    simp only [taken, Bool.false_eq_true, false_and, ↓reduceIte]

theorem unnatural_afterWhole_fraction
    (negative : Bool)
    (value : Nat)
    (left : Bytes)
    (rest : Bytes) :
    Unnatural (afterWhole negative value left (ascii '.' :: rest)) := by
  simp only [afterWhole, ↓reduceIte]
  exact unnatural_fractionPart _ _ _ _

theorem unnatural_afterWhole_exponent
    (negative : Bool)
    (value : Nat)
    (left : Bytes)
    (exponent : Exponent)
    (rest : Bytes) :
    Unnatural (afterWhole negative value left (exponent.letter :: rest)) := by
  simp only [afterWhole, exponent.letter_ne.2, exponent.letter_cases, not_true_eq_false,
    and_false, ↓reduceIte]
  exact unnatural_numberEnd _ _ _ _

/-- Only digits alone, of which none are left, are a natural number. -/
theorem naturalRead_afterWhole_numeral
    (numeral : Numeral)
    (value : Nat)
    (left : Bytes)
    {rest : Bytes}
    (ended : Ended rest) :
    naturalRead
        (afterWhole numeral.negative value left
          (numeral.fractionBytes ++ (numeral.exponentBytes ++ rest))) =
      if left.isEmpty ∧ numeral.natural?.isSome then some (value, rest) else none := by
  cases fraction : numeral.fraction with
  | some digits =>
      have noNatural : numeral.natural? = none := by
        simp only [Numeral.natural?, fraction, Option.isSome_some, true_or, or_true,
          ↓reduceIte]
      have unnatural :=
        unnatural_afterWhole_fraction numeral.negative value left
          (digits.bytes ++ (numeral.exponentBytes ++ rest))
      rw [Numeral.fractionBytes, fraction, noNatural, List.cons_append]
      simpa only [Option.isSome_none, Bool.false_eq_true, and_false, ↓reduceIte] using
        unnatural.naturalRead
  | none =>
      cases power : numeral.exponent with
      | some exponent =>
          have noNatural : numeral.natural? = none := by
            simp only [Numeral.natural?, power, Option.isSome_some, or_true, ↓reduceIte]
          have unnatural :=
            unnatural_afterWhole_exponent numeral.negative value left exponent
              ((exponent.sign ++ exponent.digits.bytes) ++ rest)
          simp only [Numeral.fractionBytes, fraction, Numeral.exponentBytes, power,
            noNatural, List.nil_append, Exponent.bytes, List.cons_append]
          simpa only [Option.isSome_none, Bool.false_eq_true, and_false, ↓reduceIte] using
            unnatural.naturalRead
      | none =>
          have natural : numeral.natural?.isSome = !numeral.negative := by
            cases negative : numeral.negative <;>
              simp [Numeral.natural?, fraction, power, negative]
          rw [Numeral.fractionBytes, fraction, Numeral.exponentBytes, power,
            List.nil_append, List.nil_append, naturalRead_afterWhole _ _ _ ended, natural]
          simp only [Bool.not_eq_true, Bool.not_eq_eq_eq_not, Bool.not_true]

/-- A natural number is read exactly from digits alone whose value is below
`2 ^ 64`. -/
theorem naturalRead_numberBody
    (numeral : Numeral)
    {rest : Bytes}
    (ended : Ended rest) :
    naturalRead (numberBody numeral.negative (numeral.body ++ rest)) =
      (numeral.natural?.filter (· < UInt64.size)).map fun value => (value, rest) := by
  rw [numberBody_body numeral.negative numeral ended,
    naturalRead_afterWhole_numeral numeral _ _ ended]
  cases natural : numeral.natural? with
  | none => simp
  | some value =>
      have same : value = digitsValue numeral.whole.bytes := by
        unfold Numeral.natural? at natural
        split at natural
        · cases natural
        · cases natural
          rfl
      rw [same]
      rcases significand_cases numeral.whole.bytes 0 with ⟨taken, below⟩ | ⟨left, above⟩
      · have fits : digitsValue numeral.whole.bytes < UInt64.size :=
          below.resolve_right numeral.whole.ne_nil
        have whole : significand 0 numeral.whole.bytes =
            (digitsValue numeral.whole.bytes, []) :=
          taken
        rw [whole]
        simp [Option.filter, fits]
      · have large : ¬ digitsValue numeral.whole.bytes < UInt64.size :=
          Nat.not_lt_of_le above
        simp [Option.filter, large, left]

/-- A number that has been read, as a natural number below a bound. -/
def naturalBelow (bound : Nat) (expected : String) :
    Except Cause (Number × Bytes) → Except Cause (Nat × Bytes)
  | .error cause => .error cause
  | .ok (.natural value, rest) =>
      if value < bound then .ok (value, rest)
      else .error (.outOfRange (.natural value) expected)
  | .ok (.negative value, _) => .error (.outOfRange (.negative value) expected)
  | .ok (.rounded negative magnitude, _) =>
      .error (.wrongKind (.number (.rounded negative magnitude)) expected)

theorem toOption_naturalBelow
    (bound : Nat)
    (expected : String)
    (read : Except Cause (Number × Bytes)) :
    (naturalBelow bound expected read).toOption =
      (naturalRead read).filter (·.1 < bound) := by
  rcases read with cause | ⟨value | value | ⟨negative, magnitude⟩, rest⟩
  · rfl
  · by_cases below : value < bound <;>
      simp [naturalBelow, below, naturalRead, Number.natural?, Except.toOption, Option.filter]
  · rfl
  · rfl

theorem natural_numeral
    {gap rest : Bytes}
    (blanks : Blanks gap)
    (bound : Nat)
    (expected : String)
    (numeral : Numeral) :
    Reader.natural bound expected (gap ++ (numeral.bytes ++ rest)) =
      naturalBelow bound expected
        (numberBody numeral.negative (numeral.body ++ rest)) := by
  rw [Reader.natural, (Spelled.number numeral).skipBlanks_eq blanks, Numeral.bytes,
    Numeral.sign]
  cases negative : numeral.negative with
  | true =>
      simp only [↓reduceIte, List.cons_append, List.nil_append]
      rfl
  | false =>
      obtain ⟨first, others, whole, digit⟩ := numeral.whole.bytes_eq_cons
      have notMinus : first ≠ ascii '-' := by
        rintro rfl
        exact absurd digit (by decide)
      simp only [Bool.false_eq_true, ↓reduceIte, List.nil_append, Numeral.body, whole,
        List.cons_append, notMinus, digit]
      rfl

end OrderCustody.Json
