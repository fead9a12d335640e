import OrderCustody.Audit.Trail
import OrderCustody.Calendar.Clock
import OrderCustody.Desk.Wire
import OrderCustody.Order.Wire
import OrderCustody.Refusal
import OrderCustody.Session.Keeper
import OrderCustody.TypedData.Digest

namespace OrderCustody

/-!
# The signing desk

The desk stands in front of the keeper.  It checks and hashes an order before
the session is touched, asks for a signature against the order's value, and
records every custody event in the audit trail.  It holds no secret itself.
-/

/-- A keeper with the domain orders are hashed under, the limit of sessions
that name none, and the audit trail. -/
structure Desk where
  domain : TypedData.Domain
  defaultLimit : Nat
  keeper : Keeper
  trail : Audit.Trail

namespace Desk

/-- The desk with one more entry in its trail. -/
def record (desk : Desk) (clock : Clock) (entry : Audit.Entry) : Desk :=
  { desk with trail := desk.trail.record clock.calendar entry }

/-- The order of a request and its digest, or why the request is malformed. -/
def checkOrder (domain : TypedData.Domain) (request : SignRequest) :
    Except Refusal (Order × Digest) :=
  match request.order with
  | none => .error (.invalidInput "order is required")
  | some orderRequest =>
      match orderRequest.parse with
      | .error fault => .error (.invalidInput fault.message)
      | .ok order =>
          match TypedData.digest domain order with
          | .error fault => .error (.invalidInput fault.message)
          | .ok digest => .ok (order, digest)

/-- The entry for a signature. -/
def signedEntry (order : Order) (signed : SessionSignature) : Audit.Entry where
  kind := .orderSigned
  address := some signed.address
  orderValue := some (Decimal.text order.makerAmount)
  valueUsed := some (Decimal.text signed.used)

/-- The entry for a session operation that failed on a request to sign. -/
def refusedEntry (order : Order) (fault : SessionFault) : Audit.Entry where
  kind :=
    match fault with
    | .sessionExpired => .sessionExpired
    | _ => .signRejected
  orderValue := some (Decimal.text order.makerAmount)
  reason := some (Refusal.ofSessionFault fault).code

/-- Check, hash and sign an order. -/
def signOrder (desk : Desk) (clock : Clock) (request : SignRequest) :
    Except Refusal SignResponse × Desk :=
  match checkOrder desk.domain request with
  | .error refusal => (.error refusal, desk)
  | .ok (order, digest) =>
      match desk.keeper.sign clock.elapsed order.makerAmount digest with
      | (.ok signed, keeper) =>
          (.ok {
              signature := signed.signature.toHex
              signerAddress := signed.address
            },
            { desk with keeper }.record clock (signedEntry order signed))
      | (.error fault, keeper) =>
          (.error (.ofSessionFault fault),
            { desk with keeper }.record clock (refusedEntry order fault))

/-- Report the session.  If that tears an expired one down, the trail says
so. -/
def sessionStatus (desk : Desk) (clock : Clock) : SessionReport × Desk :=
  let ((status, expired), keeper) := desk.keeper.observe clock.elapsed
  let observed := { desk with keeper }
  let recorded :=
    if expired then
      observed.record clock {
        kind := .sessionExpired
        reason := some "status_check"
      }
    else observed
  (.ofStatus status, recorded)

/-- Start a session with a key that has been loaded, unless loading failed. -/
def activateFrom
    (desk : Desk)
    (clock : Clock)
    (draw : Custody.Draw)
    (loaded : Except KeySource.Fault Bytes)
    (limit : Option Nat) :
    Except Refusal SessionReport × Desk :=
  match loaded with
  | .error fault => (.error (.ofKeyFault fault), desk)
  | .ok key =>
      let limit := limit.getD desk.defaultLimit
      match desk.keeper.activate clock.elapsed draw key limit with
      | (.error fault, keeper) =>
          (.error (.ofSessionFault fault), { desk with keeper })
      | (.ok status, keeper) =>
          (.ok (.ofStatus status),
            { desk with keeper }.record clock {
              kind := .sessionActivated
              address := some status.address
              maxValueLimit := some (Decimal.text limit)
            })

/-- Discard the session; a line says what became of it, if there was one. -/
def destroy (desk : Desk) (clock : Clock) : Teardown × Desk :=
  let (found, keeper) := desk.keeper.destroy clock.elapsed
  let torn := { desk with keeper }
  match found with
  | .empty => (found, torn)
  | .destroyed => (found, torn.record clock { kind := .sessionDestroyed })
  | .expired => (found, torn.record clock { kind := .sessionExpired })

end Desk

end OrderCustody
