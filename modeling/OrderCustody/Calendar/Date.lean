namespace OrderCustody.Calendar

/-!
# Dates

Dates of the Gregorian calendar, extended to all years that a timestamp can
have.  A date carries the proof that its day exists.
-/

/-- Whether a year has 366 days. -/
def isLeap (year : Int) : Bool :=
  year % 4 == 0 && (year % 100 != 0 || year % 400 == 0)

/-- The number of days of a month. -/
def daysInMonth (year : Int) (month : Nat) : Nat :=
  match month with
  | 2 => if isLeap year then 29 else 28
  | 4 | 6 | 9 | 11 => 30
  | _ => 31

/-- The first year of the calendar. -/
def firstYear : Int := -262143

/-- The last year of the calendar. -/
def lastYear : Int := 262142

/-- The condition for a day to exist. -/
def Exists (year : Int) (month day : Nat) : Prop :=
  (firstYear ≤ year ∧ year ≤ lastYear) ∧ (1 ≤ month ∧ month ≤ 12) ∧
    1 ≤ day ∧ day ≤ daysInMonth year month

instance (year : Int) (month day : Nat) : Decidable (Exists year month day) :=
  inferInstanceAs (Decidable (_ ∧ _ ∧ _ ∧ _))

/-- A day of the calendar. -/
structure Date where
  year : Int
  month : Nat
  day : Nat
  valid : Exists year month day
  deriving DecidableEq

namespace Date

/-- The date of a year, month and day, if that day exists. -/
def ofCivil? (year : Int) (month day : Nat) : Option Date :=
  if valid : Exists year month day then some ⟨year, month, day, valid⟩
  else none

/-- The day after a day, unless it is the last one of the calendar. -/
def next? (date : Date) : Option Date :=
  if date.day < daysInMonth date.year date.month then
    ofCivil? date.year date.month (date.day + 1)
  else if date.month < 12 then
    ofCivil? date.year (date.month + 1) 1
  else
    ofCivil? (date.year + 1) 1 1

/-- The day before. -/
def previous? (date : Date) : Option Date :=
  if 1 < date.day then
    ofCivil? date.year date.month (date.day - 1)
  else if 1 < date.month then
    ofCivil? date.year (date.month - 1) (daysInMonth date.year (date.month - 1))
  else
    ofCivil? (date.year - 1) 12 31

/-- The date a number of days after the first of January 1970, counted in
cycles of four hundred years that start in March. -/
def ofDays? (days : Int) : Option Date :=
  let shifted := days + 719468
  let era := shifted.fdiv 146097
  let dayOfEra := (shifted - era * 146097).toNat
  let yearOfEra :=
    (dayOfEra - dayOfEra / 1460 + dayOfEra / 36524 - dayOfEra / 146096) / 365
  let dayOfYear := dayOfEra - (365 * yearOfEra + yearOfEra / 4 - yearOfEra / 100)
  let march := (5 * dayOfYear + 2) / 153
  let day := dayOfYear - (153 * march + 2) / 5 + 1
  let month := if march < 10 then march + 3 else march - 9
  let year : Int := yearOfEra + era * 400 + (if month ≤ 2 then 1 else 0)
  ofCivil? year month day

end Date

end OrderCustody.Calendar
