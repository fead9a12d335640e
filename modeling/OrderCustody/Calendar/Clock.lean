import OrderCustody.Calendar.Timestamp

namespace OrderCustody

/-!
# Clocks

Sessions expire by a clock that only ever advances; events are stamped with the
time of the calendar.
-/

/-- What both clocks show. -/
structure Clock where
  /-- Milliseconds since some start. -/
  elapsed : Nat
  calendar : Calendar.Timestamp
  regular : calendar.IsRegular
  deriving DecidableEq

namespace Clock

/-- The clocks after some milliseconds; the calendar is read anew by whoever
needs it and stays as it is here. -/
def advance (clock : Clock) (milliseconds : Nat) : Clock :=
  { clock with elapsed := clock.elapsed + milliseconds }

end Clock

end OrderCustody
