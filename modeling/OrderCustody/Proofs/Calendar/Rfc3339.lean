import OrderCustody.Calendar.Rfc3339
import OrderCustody.Proofs.Decimal

namespace OrderCustody.Calendar.Timestamp

/-!
# Timestamps as text are exact

A timestamp is read back from its text, whatever its year, its fraction and whether
it is a leap second, as long as a leap second follows the last second of a minute.  One
that follows another second has the text of the next second, and is read as that.

The parts of the text are read one after the other, each with what follows it; none of
them starts with a blank, and a run of digits ends where its width ends or at a character
that is no digit.
-/

/-! ## Padded digits -/

theorem isDigit_of_mem_padded
    {width value : Nat}
    {c : Char}
    (member : c ∈ padded width value) :
    isDigit c = true := by
  rcases List.mem_append.mp member with inPadding | inDigits
  · rw [List.eq_of_mem_replicate inPadding]
    decide
  · exact Decimal.isDigit_of_mem_toDigits inDigits

theorem exists_padded_eq_cons (width value : Nat) :
    ∃ first others, padded width value = first :: others ∧ isDigit first = true := by
  have notEmpty : padded width value ≠ [] := by simp [padded]
  obtain ⟨first, others, parts⟩ := List.exists_cons_of_ne_nil notEmpty
  exact ⟨first, others, parts, isDigit_of_mem_padded (parts ▸ List.mem_cons_self)⟩

theorem length_padded
    {width value : Nat}
    (positive : 0 < width)
    (small : value < Nat.pow 10 width) :
    (padded width value).length = width := by
  have short : (Nat.toDigits 10 value).length ≤ width :=
    (Nat.length_toDigits_le_iff (by decide) positive).mpr small
  simp only [padded, List.length_append, List.length_replicate]
  omega

theorem digitsValue_padded (width value : Nat) :
    digitsValue (padded width value) = value := by
  change Nat.ofDigitChars 10 (padded width value) 0 = value
  simp only [padded, Nat.ofDigitChars_append, Nat.ofDigitChars_replicate_zero,
    Nat.mul_zero, Nat.ofDigitChars_ten_toDigits]

/-! ## Blanks -/

theorem isBlank_eq_false_of_isDigit
    {c : Char}
    (digit : isDigit c = true) :
    Text.isBlank c = false := by
  have bounds : 48 ≤ c.toNat ∧ c.toNat ≤ 57 := by
    simpa [isDigit, Char.le_def, UInt32.le_iff_toNat_le] using digit
  have outside : ∀ range ∈ Text.blankRanges, range.2 < 48 ∨ 57 < range.1 := by
    decide
  rw [Bool.eq_false_iff]
  intro blank
  obtain ⟨range, member, least, greatest⟩ := Text.Ranges.contains_iff.mp blank
  rcases outside range member with below | above <;> omega

theorem trimStart_cons
    {c : Char}
    {rest : List Char}
    (visible : Text.isBlank c = false) :
    Text.trimStart (c :: rest) = c :: rest := by
  simp only [Text.trimStart, List.dropWhile_cons, visible, Bool.false_eq_true, ↓reduceIte]

theorem trimStart_padded (width value : Nat) (rest : List Char) :
    Text.trimStart (padded width value ++ rest) = padded width value ++ rest := by
  obtain ⟨first, others, parts, digit⟩ := exists_padded_eq_cons width value
  rw [parts, List.cons_append]
  exact trimStart_cons (isBlank_eq_false_of_isDigit digit)

/-! ## Reading the parts -/

/-- No digit comes next. -/
def Ended (characters : List Char) : Prop :=
  ∀ c ∈ characters.head?, isDigit c = false

theorem takeWhile_eq_nil_of_ended
    {characters : List Char}
    (ended : Ended characters)
    (count : Nat) :
    (characters.take count).takeWhile isDigit = [] := by
  cases count with
  | zero => simp
  | succ count =>
      cases characters with
      | nil => simp
      | cons c rest =>
          have other : isDigit c = false := ended c rfl
          simp [other]

theorem number_padded
    {limit width value : Nat}
    {rest : List Char}
    (fits : (padded width value).length ≤ limit)
    (ends : (padded width value).length = limit ∨ Ended rest) :
    number limit (padded width value ++ rest) = .ok (value, rest) := by
  have behind :
      (rest.take (limit - (padded width value).length)).takeWhile isDigit = [] := by
    rcases ends with full | ended
    · simp [full]
    · exact takeWhile_eq_nil_of_ended ended _
  have taken :
      ((padded width value ++ rest).take limit).takeWhile isDigit =
        padded width value := by
    rw [List.take_append, List.take_of_length_le fits,
      List.takeWhile_append_of_pos fun _ => isDigit_of_mem_padded, behind, List.append_nil]
  obtain ⟨first, others, parts, digit⟩ := exists_padded_eq_cons width value
  rw [parts, List.cons_append] at taken ⊢
  simp only [number, digit, ↓reduceIte, taken]
  rw [← parts, digitsValue_padded, ← List.cons_append, ← parts, List.drop_left]

theorem mark_cons
    {expected : Char}
    {rest : List Char}
    (visible : Text.isBlank expected = false) :
    mark expected (expected :: rest) = .ok rest := by
  simp only [mark, trimStart_cons visible, ↓reduceIte]

theorem part_padded
    {least greatest value : Nat}
    {rest : List Char}
    (twoDigits : value < 100)
    (above : least ≤ value)
    (below : value ≤ greatest) :
    part least greatest (padded 2 value ++ rest) = .ok (value, rest) := by
  have width : (padded 2 value).length = 2 := length_padded (by decide) twoDigits
  have read : number 2 (padded 2 value ++ rest) = .ok (value, rest) :=
    number_padded (Nat.le_of_eq width) (.inl width)
  simp only [part, trimStart_padded, read]
  exact if_pos ⟨above, below⟩

theorem yearPart_yearText
    {year : Int}
    {rest : List Char}
    (first : firstYear ≤ year)
    (last : year ≤ lastYear)
    (ended : Ended rest) :
    yearPart (yearText year ++ rest) = .ok (year, rest) := by
  have bounded : -2147483648 ≤ year ∧ year ≤ 2147483647 := by
    simp only [firstYear, lastYear] at first last
    omega
  have behindSign :
      number (padded 4 year.natAbs ++ rest).length (padded 4 year.natAbs ++ rest) =
        .ok (year.natAbs, rest) :=
    number_padded (by simp) (.inr ended)
  by_cases fourDigits : 0 ≤ year ∧ year ≤ 9999
  · have small : year.toNat < 10000 := by omega
    have width : (padded 4 year.toNat).length = 4 := length_padded (by decide) small
    have read : number 4 (padded 4 year.toNat ++ rest) = .ok (year.toNat, rest) :=
      number_padded (Nat.le_of_eq width) (.inl width)
    have same : (year.toNat : Int) = year := Int.toNat_of_nonneg fourDigits.1
    obtain ⟨digit, others, parts, isDigit⟩ := exists_padded_eq_cons 4 year.toNat
    have notMinus : digit ≠ '-' := by
      rintro rfl
      revert isDigit
      decide
    have notPlus : digit ≠ '+' := by
      rintro rfl
      revert isDigit
      decide
    simp only [yearPart, yearText, fourDigits, and_self, ↓reduceIte, trimStart_padded]
    rw [parts, List.cons_append] at read ⊢
    split
    · next cut =>
        exact absurd (List.cons.inj cut).1 notMinus
    · next cut =>
        exact absurd (List.cons.inj cut).1 notPlus
    · next =>
        simp only [read, bind, Except.bind, same]
        exact if_pos bounded
  · have minusVisible : Text.isBlank '-' = false := by decide
    have plusVisible : Text.isBlank '+' = false := by decide
    by_cases negative : year < 0
    · have same : -(year.natAbs : Int) = year := by omega
      simp only [yearPart, yearText, fourDigits, negative, ↓reduceIte, List.cons_append,
        trimStart_cons minusVisible, behindSign, bind, Except.bind, same]
      exact if_pos bounded
    · have same : (year.natAbs : Int) = year := by omega
      simp only [yearPart, yearText, fourDigits, negative, ↓reduceIte, List.cons_append,
        trimStart_cons plusVisible, behindSign, bind, Except.bind, same]
      exact if_pos bounded

theorem fractionPart_padded
    {width value : Nat}
    (positive : 0 < width)
    (atMostNine : width ≤ 9)
    (small : value < Nat.pow 10 width) :
    fractionPart ('.' :: padded width value ++ ['Z']) =
      .ok (value * Nat.pow 10 (9 - width), ['Z']) := by
  have length : (padded width value).length = width := length_padded positive small
  have ended : Ended ['Z'] := by
    intro c isFirst
    cases isFirst
    decide
  have read : number 9 (padded width value ++ ['Z']) = .ok (value, ['Z']) :=
    number_padded (by omega) (.inr ended)
  have digits : (padded width value ++ ['Z']).length - ['Z'].length = width := by
    simp [length]
  simp only [fractionPart, List.cons_append, read, bind, Except.bind, digits]
  rfl

theorem fractionPart_fractionText
    {nano : Nat}
    (small : nano < nanosPerSecond) :
    fractionPart (fractionText nano ++ ['Z']) = .ok (nano, ['Z']) := by
  have bound : nano < 1000000000 := small
  simp only [fractionText]
  split
  · next none =>
      subst none
      rfl
  · split
    · next milli =>
        have small : nano / 1000000 < 1000 := by omega
        have whole : nano / 1000000 * 1000000 = nano :=
          Nat.div_mul_cancel (Nat.dvd_of_mod_eq_zero milli)
        rw [fractionPart_padded (by decide) (by decide) small]
        exact congrArg (fun value => Except.ok (value, ['Z'])) whole
    · split
      · next micro =>
          have small : nano / 1000 < 1000000 := by omega
          have whole : nano / 1000 * 1000 = nano :=
            Nat.div_mul_cancel (Nat.dvd_of_mod_eq_zero micro)
          rw [fractionPart_padded (by decide) (by decide) small]
          exact congrArg (fun value => Except.ok (value, ['Z'])) whole
      · rw [fractionPart_padded (by decide) (by decide) bound]
        exact congrArg (fun value => Except.ok (value, ['Z'])) (Nat.mul_one nano)

/-! ## The whole text -/

theorem ofCivil?_self (date : Date) :
    Date.ofCivil? date.year date.month date.day = some date :=
  dif_pos date.valid

theorem ofAnyTime?_self (timestamp : Timestamp) :
    ofAnyTime? timestamp.date timestamp.second timestamp.nano = some timestamp :=
  dif_pos timestamp.valid

theorem ofTime?_self
    {timestamp : Timestamp}
    (regular : timestamp.IsRegular) :
    ofTime? timestamp.date timestamp.second timestamp.nano = some timestamp := by
  rw [ofTime?, ofAnyTime?_self, Option.filter_some, decide_eq_true regular]
  rfl

theorem ofOffset?_zero (timestamp : Timestamp) :
    timestamp.ofOffset? 0 = some timestamp := by
  have inDay : timestamp.second < secondsPerDay := timestamp.valid.1
  have notBefore : ¬ (timestamp.second : Int) < 0 := by omega
  have notAfter : ¬ (secondsPerDay : Int) ≤ timestamp.second := by omega
  simp only [ofOffset?, Int.sub_zero, notBefore, notAfter, ↓reduceIte, Int.toNat_natCast,
    ofAnyTime?_self]

/-- The second that is shown: a leap second is shown as second sixty. -/
def shownSecond (timestamp : Timestamp) : Nat :=
  timestamp.second % 60 + if nanosPerSecond ≤ timestamp.nano then 1 else 0

/-- The fraction that is shown behind the second. -/
def shownNano (timestamp : Timestamp) : Nat :=
  if nanosPerSecond ≤ timestamp.nano then timestamp.nano - nanosPerSecond
  else timestamp.nano

theorem shownSecond_le (timestamp : Timestamp) : timestamp.shownSecond ≤ 60 := by
  unfold shownSecond
  split <;> omega

theorem shownNano_lt (timestamp : Timestamp) : timestamp.shownNano < nanosPerSecond := by
  have bound : timestamp.nano < 2 * nanosPerSecond := timestamp.valid.2
  unfold shownNano
  split <;> omega

theorem ofParts_shown
    {timestamp : Timestamp}
    (regular : timestamp.IsRegular) :
    ofParts timestamp.date.year timestamp.date.month timestamp.date.day
      (timestamp.second / 3600) (timestamp.second / 60 % 60)
      timestamp.shownSecond timestamp.shownNano 0 = .ok timestamp := by
  have whole :
      timestamp.second / 3600 * 3600 + timestamp.second / 60 % 60 * 60 +
        timestamp.second % 60 = timestamp.second := by
    omega
  by_cases leap : nanosPerSecond ≤ timestamp.nano
  · have last : timestamp.second % 60 = 59 := regular leap
    have fraction : timestamp.nano - nanosPerSecond + nanosPerSecond = timestamp.nano :=
      Nat.sub_add_cancel leap
    rw [last] at whole
    simp only [ofParts, shownSecond, shownNano, leap, last, ↓reduceIte, ofCivil?_self,
      whole, fraction, ofTime?_self regular, ofOffset?_zero]
    rfl
  · have notSixty : timestamp.second % 60 ≠ 60 := by omega
    simp only [ofParts, shownSecond, shownNano, leap, Nat.add_zero, notSixty, ↓reduceIte,
      ofCivil?_self, whole, ofTime?_self regular, ofOffset?_zero]
    rfl

theorem toList_text (timestamp : Timestamp) :
    timestamp.text.toList =
      yearText timestamp.date.year ++ '-' :: (padded 2 timestamp.date.month ++
        '-' :: (padded 2 timestamp.date.day ++ 'T' :: (padded 2 (timestamp.second / 3600) ++
          ':' :: (padded 2 (timestamp.second / 60 % 60) ++
            ':' :: (padded 2 timestamp.shownSecond ++
              (fractionText timestamp.shownNano ++ ['Z'])))))) := by
  simp only [text, zoneless, String.toList_ofList, List.append_assoc, List.cons_append]
  rfl

theorem day_le (date : Date) : date.day ≤ 31 := by
  obtain ⟨-, -, -, inMonth⟩ := date.valid
  refine Nat.le_trans inMonth ?_
  unfold daysInMonth
  split
  · split <;> decide
  all_goals decide

/-- The text of a timestamp with a regular leap second, or with none, reads as that
timestamp. -/
theorem parse_text_of_isRegular
    {timestamp : Timestamp}
    (regular : timestamp.IsRegular) :
    parse timestamp.text = .ok timestamp := by
  obtain ⟨⟨firstYear, lastYear⟩, ⟨firstMonth, lastMonth⟩, firstDay, -⟩ :=
    timestamp.date.valid
  have inDay : timestamp.second < 86400 := timestamp.valid.1
  have yearRead (rest : List Char) :
      yearPart (yearText timestamp.date.year ++ '-' :: rest) =
        .ok (timestamp.date.year, '-' :: rest) := by
    refine yearPart_yearText firstYear lastYear ?_
    intro c isFirst
    cases isFirst
    decide
  have monthRead (rest : List Char) :
      part 1 12 (padded 2 timestamp.date.month ++ rest) =
        .ok (timestamp.date.month, rest) :=
    part_padded (by omega) firstMonth lastMonth
  have dayRead (rest : List Char) :
      part 1 31 (padded 2 timestamp.date.day ++ rest) = .ok (timestamp.date.day, rest) := by
    have lastDay := day_le timestamp.date
    exact part_padded (by omega) firstDay lastDay
  have hourRead (rest : List Char) :
      part 0 23 (padded 2 (timestamp.second / 3600) ++ rest) =
        .ok (timestamp.second / 3600, rest) :=
    part_padded (by omega) (Nat.zero_le _) (by omega)
  have minuteRead (rest : List Char) :
      part 0 59 (padded 2 (timestamp.second / 60 % 60) ++ rest) =
        .ok (timestamp.second / 60 % 60, rest) :=
    part_padded (by omega) (Nat.zero_le _) (by omega)
  have secondRead (rest : List Char) :
      part 0 60 (padded 2 timestamp.shownSecond ++ rest) =
        .ok (timestamp.shownSecond, rest) := by
    have lastSecond := timestamp.shownSecond_le
    exact part_padded (by omega) (Nat.zero_le _) lastSecond
  have fractionRead := fractionPart_fractionText timestamp.shownNano_lt
  have hyphenVisible : Text.isBlank '-' = false := by decide
  have colonVisible : Text.isBlank ':' = false := by decide
  have zoneRead : zone (Text.trimStart ['Z']) = .ok (0, []) := rfl
  have nothingLeft : (!(Text.trimStart []).isEmpty) = false := rfl
  simp only [parse, toList_text, bind, Except.bind, pure, Except.pure,
    mark_cons hyphenVisible, mark_cons colonVisible,
    yearRead, monthRead, dayRead, true_or, or_true, ↓reduceIte, hourRead, minuteRead,
    secondRead, fractionRead, zoneRead, nothingLeft, Bool.false_eq_true, ofParts_shown regular]

/-! ## Leap seconds that no clock shows -/

/-- A leap second that no clock shows ends within the minute. -/
theorem isTime_succ_of_not_isRegular
    {timestamp : Timestamp}
    (irregular : ¬ timestamp.IsRegular) :
    IsTime (timestamp.second + 1) (timestamp.nano - nanosPerSecond) := by
  obtain ⟨inDay, short⟩ := timestamp.valid
  obtain ⟨-, notLast⟩ := Classical.not_imp.mp irregular
  constructor
  · simp only [secondsPerDay] at inDay ⊢
    omega
  · omega

/-- The timestamp that a text names: the one it is written for, but the next second for
a leap second that no clock shows. -/
def named (timestamp : Timestamp) : Timestamp :=
  if regular : timestamp.IsRegular then timestamp
  else {
    date := timestamp.date
    second := timestamp.second + 1
    nano := timestamp.nano - nanosPerSecond
    valid := isTime_succ_of_not_isRegular regular
  }

theorem named_of_isRegular
    {timestamp : Timestamp}
    (regular : timestamp.IsRegular) :
    timestamp.named = timestamp :=
  dif_pos regular

theorem isRegular_named (timestamp : Timestamp) : timestamp.named.IsRegular := by
  unfold named
  split
  · next regular => exact regular
  · intro leap
    have short := timestamp.valid.2
    exact absurd leap (by simp only; omega)

/-- A timestamp is the one that its text names exactly if a clock can show it. -/
theorem named_eq_self_iff (timestamp : Timestamp) :
    timestamp.named = timestamp ↔ timestamp.IsRegular := by
  constructor
  · intro same
    rw [← same]
    exact timestamp.isRegular_named
  · exact named_of_isRegular

theorem zoneless_named (timestamp : Timestamp) :
    timestamp.named.zoneless = timestamp.zoneless := by
  by_cases regular : timestamp.IsRegular
  · rw [named_of_isRegular regular]
  obtain ⟨leap, notLast⟩ := Classical.not_imp.mp regular
  have short := timestamp.valid.2
  have notLeap : ¬ nanosPerSecond ≤ timestamp.nano - nanosPerSecond := by omega
  have hour : (timestamp.second + 1) / 3600 = timestamp.second / 3600 := by omega
  have minute : (timestamp.second + 1) / 60 = timestamp.second / 60 := by omega
  have second : (timestamp.second + 1) % 60 = timestamp.second % 60 + 1 := by omega
  simp only [zoneless, named, regular, ↓reduceDIte, notLeap, leap, ↓reduceIte, hour, minute,
    second, Nat.add_zero]

/-- The text of a timestamp reads as the timestamp that it names. -/
theorem parse_text (timestamp : Timestamp) :
    parse timestamp.text = .ok timestamp.named := by
  have sameText : timestamp.named.text = timestamp.text := by
    rw [text, text, zoneless_named]
  rw [← sameText]
  exact parse_text_of_isRegular timestamp.isRegular_named

/-- Half a second into a leap second, at the end of the year before year zero. -/
example :
    (⟨⟨-1, 12, 31, by decide⟩, 86399, 1500000000, by decide⟩ : Timestamp).text =
      "-0001-12-31T23:59:60.500Z" := by
  decide

end OrderCustody.Calendar.Timestamp
