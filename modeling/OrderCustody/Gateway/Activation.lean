import OrderCustody.Json.Record
import OrderCustody.Order.Field
import OrderCustody.Refusal

namespace OrderCustody.Gateway

/-!
# Requests to activate

The body of a request to activate a session: nothing at all, or a record that
may name the limit of the session.
-/

/-- A request to activate a session. -/
structure ActivationRequest where
  maxValueLimit : Option String
  deriving DecidableEq, Repr

namespace ActivationRequest

/-- The members of a request to activate, as they are read. -/
def members : List Json.Member := [
  Json.Member.optional "maxValueLimit" Json.Reader.text
]

/-- The request of the values of its members. -/
def ofValues : Json.Values members → ActivationRequest
  | (maxValueLimit, ()) => { maxValueLimit }

/-- The request that a text is read as. -/
def ofJson (bytes : Bytes) : Except Json.Cause ActivationRequest :=
  ((Json.Reader.record "ActivateRequest" members).map ofValues).run bytes

/-- The request that a body makes; an empty one names no limit. -/
def ofBody (body : Bytes) : Except Refusal ActivationRequest :=
  if body.isEmpty then .ok { maxValueLimit := none }
  else (ofJson body).mapError .ofJsonCause

/-- The limit that a request names, if it names one. -/
def limit (request : ActivationRequest) : Except Refusal (Option Nat) :=
  match request.maxValueLimit with
  | none => .ok none
  | some text =>
      match Field.decimal "maxValueLimit" text with
      | .ok limit => .ok (some limit)
      | .error fault => .error (.invalidInput fault.message)

/-- The limit that a body names, if it names one. -/
def limitOfBody (body : Bytes) : Except Refusal (Option Nat) := do
  let request ← ofBody body
  request.limit

end ActivationRequest

end OrderCustody.Gateway
