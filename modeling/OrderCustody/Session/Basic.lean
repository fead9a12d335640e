import OrderCustody.Custody.SealedKey
import OrderCustody.Decimal
import OrderCustody.Signing.Signer

namespace OrderCustody

/-!
# Sessions

A session is the custody of one sealed key for a limited time and a limited
value: it knows when it expires, the most it may authorize, and what it has
authorized so far.  Time is a number of milliseconds since some start.
-/

/-- Custody of one key with its spend counters. -/
structure Session where
  sealedKey : Custody.SealedKey
  address : String
  expiresAt : Nat
  limit : Nat
  used : Nat
  deriving DecidableEq

/-- A report of the session for callers; amounts are decimal text. -/
structure SessionStatus where
  active : Bool
  /-- Milliseconds until the session expires. -/
  remaining : Nat
  limit : String
  used : String
  address : String
  deriving DecidableEq, Repr

namespace SessionStatus

/-- The report where there is no session. -/
def inactive : SessionStatus where
  active := false
  remaining := 0
  limit := "0"
  used := "0"
  address := ""

/-- Whole seconds until the session expires. -/
def seconds (status : SessionStatus) : Nat :=
  status.remaining / 1000

end SessionStatus

namespace Session

/-- Whether a session has expired; at its very last moment it has. -/
def isExpired (session : Session) (now : Nat) : Bool :=
  session.expiresAt ≤ now

/-- The value a session may still authorize. -/
def budget (session : Session) : Nat :=
  session.limit - session.used

/-- The report of a live session. -/
def status (session : Session) (now : Nat) : SessionStatus where
  active := true
  remaining := session.expiresAt - now
  limit := Decimal.text session.limit
  used := Decimal.text session.used
  address := session.address

end Session

/-- Why a session operation fails. -/
inductive SessionFault where
  /-- Nothing is activated, or it was torn down. -/
  | noActiveSession
  /-- The session had expired and was torn down by this operation. -/
  | sessionExpired
  /-- The request would take the session over its limit. -/
  | valueLimitExceeded (requested remaining : Nat)
  /-- The signing primitive failed; nothing was spent. -/
  | signingFailure (fault : SigningFault)
  /-- The key was rejected on activation. -/
  | invalidKey (fault : SigningFault)
  /-- The key could not be sealed or revealed. -/
  | custody (fault : Custody.Fault)
  deriving DecidableEq, Repr

/-- The text of a fault. -/
def SessionFault.message : SessionFault → String
  | noActiveSession => "no active session"
  | sessionExpired => "session expired"
  | valueLimitExceeded requested remaining =>
      "cumulative value limit exceeded: requested " ++
        Decimal.text requested ++ ", remaining " ++ Decimal.text remaining
  | signingFailure fault => "signing failed: " ++ fault.message
  | invalidKey fault => "invalid key material: " ++ fault.message
  | custody fault => fault.message

end OrderCustody
