import OrderCustody.Calendar.Date

namespace OrderCustody.Calendar

/-!
# Timestamps

A date, a second of the day and a fraction of it, in universal time.  A
fraction of a second or more stands for a leap second.  A timestamp can hold
one after any second, but of those that are made of a date and a time only the
last second of a minute is followed by one.
-/

/-- The seconds of a day without a leap second. -/
def secondsPerDay : Nat := 86400

/-- The nanoseconds of a second. -/
def nanosPerSecond : Nat := 1000000000

/-- The condition for a time of day: a second of the day, and less than two
seconds behind it. -/
def IsTime (second nano : Nat) : Prop :=
  second < secondsPerDay ∧ nano < 2 * nanosPerSecond

instance (second nano : Nat) : Decidable (IsTime second nano) :=
  inferInstanceAs (Decidable (_ ∧ _))

/-- An instant in universal time. -/
structure Timestamp where
  date : Date
  second : Nat
  nano : Nat
  valid : IsTime second nano
  deriving DecidableEq

namespace Timestamp

/-- The condition for a leap second to be one that a clock can show: it follows
the last second of a minute. -/
def IsRegular (timestamp : Timestamp) : Prop :=
  nanosPerSecond ≤ timestamp.nano → timestamp.second % 60 = 59

instance (timestamp : Timestamp) : Decidable timestamp.IsRegular :=
  inferInstanceAs (Decidable (_ → _))

/-- The timestamp of a date and a time of day, with any fraction after any
second. -/
def ofAnyTime? (date : Date) (second nano : Nat) : Option Timestamp :=
  if valid : IsTime second nano then some ⟨date, second, nano, valid⟩ else none

/-- The timestamp of a date and a time of day, if a clock can show it. -/
def ofTime? (date : Date) (second nano : Nat) : Option Timestamp :=
  (ofAnyTime? date second nano).filter fun timestamp => timestamp.IsRegular

/-- The timestamp a number of seconds after the start of 1970. -/
def ofUnix? (seconds : Int) (nano : Nat) : Option Timestamp := do
  let date ← Date.ofDays? (seconds.fdiv secondsPerDay)
  ofTime? date (seconds.fmod secondsPerDay).toNat nano

/-- The timestamp in universal time of one whose clock is `offset` seconds
ahead, by less than a day.  The fraction stays with it. -/
def ofOffset? (shown : Timestamp) (offset : Int) : Option Timestamp :=
  let second : Int := shown.second - offset
  if second < 0 then do
    let date ← shown.date.previous?
    ofAnyTime? date (second + secondsPerDay).toNat shown.nano
  else if (secondsPerDay : Int) ≤ second then do
    let date ← shown.date.next?
    ofAnyTime? date (second - secondsPerDay).toNat shown.nano
  else
    ofAnyTime? shown.date second.toNat shown.nano

end Timestamp

end OrderCustody.Calendar
