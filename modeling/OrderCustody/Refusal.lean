import OrderCustody.Json.Cause
import OrderCustody.Json.Writer
import OrderCustody.KeySource.Basic
import OrderCustody.Session.Basic

namespace OrderCustody

/-!
# Refusals

Everything that can go wrong reaches a caller as one of these, each with its
own stable code and status, so that a client can branch on it: activate again,
raise the limit, or mend the request.
-/

/-- Why a caller is refused. -/
inductive Refusal where
  | invalidInput (detail : String)
  | noActiveSession
  | sessionExpired
  | valueLimitExceeded
  | signingFailure (detail : String)
  | unauthorized (detail : String)
  | notFound (detail : String)
  | keySource (detail : String)
  | config (detail : String)
  | internal (detail : String)
  deriving DecidableEq, Repr

namespace Refusal

/-- The text of a refusal. -/
def message : Refusal → String
  | invalidInput detail => "Invalid input: " ++ detail
  | noActiveSession => "No active session"
  | sessionExpired => "Session expired"
  | valueLimitExceeded => "Cumulative value limit exceeded"
  | signingFailure detail => "Signing failed: " ++ detail
  | unauthorized detail => "Unauthorized: " ++ detail
  | notFound detail => "Not found: " ++ detail
  | keySource detail => "Key source error: " ++ detail
  | config detail => "Configuration error: " ++ detail
  | internal detail => "Internal error: " ++ detail

/-- The code by which a program tells refusals apart. -/
def code : Refusal → String
  | invalidInput _ => "INVALID_INPUT"
  | noActiveSession => "NO_ACTIVE_SESSION"
  | sessionExpired => "SESSION_EXPIRED"
  | valueLimitExceeded => "VALUE_LIMIT_EXCEEDED"
  | signingFailure _ => "SIGNING_FAILURE"
  | unauthorized _ => "UNAUTHORIZED"
  | notFound _ => "NOT_FOUND"
  | keySource _ => "KEY_SOURCE"
  | config _ => "CONFIG"
  | internal _ => "INTERNAL"

/-- The HTTP status of a refusal. -/
def status : Refusal → Nat
  | invalidInput _ => 400
  | noActiveSession => 412
  | sessionExpired => 410
  | valueLimitExceeded => 429
  | signingFailure _ => 500
  | unauthorized _ => 401
  | notFound _ => 404
  | keySource _ => 502
  | config _ => 500
  | internal _ => 500

/-- A refusal as an object. -/
def toJson (refusal : Refusal) : Json.Value :=
  .record [("code", .text refusal.code), ("error", .text refusal.message)]

/-- The refusal of a text that is not the JSON it should be. -/
def ofJsonCause (cause : Json.Cause) : Refusal :=
  invalidInput ("JSON error: " ++ cause.message)

/-- The refusal of a file that cannot be read or opened. -/
def ofFileFault (fault : FileFault) : Refusal :=
  internal fault.message

/-- The refusal that a failed session operation leads to. -/
def ofSessionFault : SessionFault → Refusal
  | .noActiveSession => noActiveSession
  | .sessionExpired => sessionExpired
  | .valueLimitExceeded _ _ => valueLimitExceeded
  | .signingFailure fault => signingFailure fault.message
  | .invalidKey fault => keySource fault.message
  | .custody fault => internal fault.message

/-- The refusal that a failed key load leads to. -/
def ofKeyFault (fault : KeySource.Fault) : Refusal :=
  keySource fault.message

end Refusal

end OrderCustody
