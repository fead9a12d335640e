import OrderCustody.Calendar.Rfc3339
import OrderCustody.Json.Record
import OrderCustody.Json.Writer

namespace OrderCustody.Audit

/-!
# Audit events

One event per custody event: what happened, when, at which instance, and the
amounts and addresses that go with it.  Events never hold key material.  Each
is written as one line of JSON in which absent members are left out.
-/

open Calendar (Timestamp)

/-- What happened. -/
inductive Kind where
  | sessionActivated
  | orderSigned
  | signRejected
  | sessionDestroyed
  | sessionExpired
  deriving DecidableEq, Repr

namespace Kind

/-- The name of a kind in a line. -/
def name : Kind → String
  | sessionActivated => "session_activated"
  | orderSigned => "order_signed"
  | signRejected => "sign_rejected"
  | sessionDestroyed => "session_destroyed"
  | sessionExpired => "session_expired"

/-- The kinds by their names. -/
def choices : List (String × Kind) :=
  [sessionActivated, orderSigned, signRejected, sessionDestroyed,
    sessionExpired].map fun kind => (kind.name, kind)

end Kind

/-- What an event says besides its time and place. -/
structure Entry where
  kind : Kind
  address : Option String := none
  orderValue : Option String := none
  valueUsed : Option String := none
  maxValueLimit : Option String := none
  reason : Option String := none
  deriving DecidableEq, Repr

/-- An entry with the time and the instance it was made at. -/
structure Event where
  timestamp : Timestamp
  instanceId : String
  entry : Entry
  deriving DecidableEq

namespace Event

/-- A timestamp, read from a text. -/
def timestampReader : Json.Reader Timestamp := fun bytes => do
  let (text, rest) ←
    Json.Reader.textNamed "an RFC 3339 formatted date and time string" bytes
  match Timestamp.parse text with
  | .ok timestamp => return (timestamp, rest)
  | .error fault => throw (.refusedText fault.message)

open Json in
/-- The members of an event, as they are read. -/
def members : List Member := [
  Member.required "timestamp" timestampReader,
  Member.required "event_type" (Reader.choice Kind.choices),
  Member.required "instance_id" Reader.text,
  Member.optional "address" Reader.text,
  Member.optional "order_value" Reader.text,
  Member.optional "value_used" Reader.text,
  Member.optional "max_value_limit" Reader.text,
  Member.optional "reason" Reader.text
]

/-- The event of the values of its members. -/
def ofValues : Json.Values members → Event
  | (timestamp, kind, instanceId, address, orderValue, valueUsed,
      maxValueLimit, reason, ()) =>
    { timestamp, instanceId
      entry := { kind, address, orderValue, valueUsed, maxValueLimit, reason } }

/-- An event, read from an object with its members. -/
def reader : Json.Reader Event :=
  (Json.Reader.record "AuditEvent" members).map ofValues

/-- The event that a text is read as. -/
def ofJson (bytes : Bytes) : Except Json.Cause Event :=
  reader.run bytes

/-- A member that is left out when it has no value. -/
def present (name : String) : Option String → List (String × Json.Value)
  | some value => [(name, .text value)]
  | none => []

/-- An event as an object, in the order of its members. -/
def toJson (event : Event) : Json.Value :=
  .record <|
    ("timestamp", .text event.timestamp.text) ::
    ("event_type", .text event.entry.kind.name) ::
    ("instance_id", .text event.instanceId) ::
    (present "address" event.entry.address ++
      present "order_value" event.entry.orderValue ++
      present "value_used" event.entry.valueUsed ++
      present "max_value_limit" event.entry.maxValueLimit ++
      present "reason" event.entry.reason)

/-- The line of an event, without its line feed. -/
def line (event : Event) : String :=
  event.toJson.render

end Event

end OrderCustody.Audit
