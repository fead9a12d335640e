import OrderCustody.Audit.Event
import OrderCustody.Audit.Writer

namespace OrderCustody.Audit

/-!
# Audit trails

A trail belongs to an instance and keeps the events logged since a file was
attached to it, in order.  Without a file events go nowhere.  With one, logging
never fails, but writing may: what the file has in the end depends on the device
under it.
-/

/-- The trail of an instance. -/
structure Trail where
  instanceId : String
  /-- The events logged to the attached file, if one is attached. -/
  file : Option (List Event)
  deriving DecidableEq

namespace Trail

/-- A trail without a file. -/
def detached (instanceId : String) : Trail where
  instanceId := instanceId
  file := none

/-- The trail with a file attached that holds nothing yet. -/
def attach (trail : Trail) : Trail :=
  { trail with file := some [] }

/-- The trail with one more event, whichever instance it names. -/
def log (trail : Trail) (event : Event) : Trail :=
  { trail with file := trail.file.map (· ++ [event]) }

/-- The trail with one more entry, made at its own instance. -/
def record
    (trail : Trail)
    (timestamp : Calendar.Timestamp)
    (entry : Entry) :
    Trail :=
  trail.log { timestamp, instanceId := trail.instanceId, entry }

/-- The events logged to a file. -/
def events (trail : Trail) : List Event :=
  trail.file.getD []

/-- The text of the attached file if nothing fails: a line for each event. -/
def text (trail : Trail) : String :=
  String.join (trail.events.map fun event => event.line ++ "\n")

/-- What the attached file has taken of the events on a device. -/
def stored (trail : Trail) (device : Device) : Bytes :=
  let lines := trail.events.map Event.line
  (lines.foldl (Writer.log device) Writer.empty).taken

end Trail

end OrderCustody.Audit
