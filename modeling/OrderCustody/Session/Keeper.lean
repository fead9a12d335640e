import OrderCustody.Session.Basic

namespace OrderCustody

/-!
# The keeper of the session

A keeper holds at most one session at a time.  Every operation that looks at
the session first checks whether it has expired, and whoever finds it expired
tears it down.  Value is spent only once a signature exists, so a failing
request costs nothing.
-/

/-- At most one session, with the way to sign and the lifetime of sessions. -/
structure Keeper where
  signer : Signer
  /-- Lifetime of a session in milliseconds. -/
  lifetime : Nat
  held : Option Session

/-- What was found when a session was destroyed. -/
inductive Teardown where
  /-- No session was held. -/
  | empty
  /-- A live session was discarded. -/
  | destroyed
  /-- The session that was held had expired. -/
  | expired
  deriving DecidableEq, Repr

/-- A signature with the session it was made in. -/
structure SessionSignature where
  signature : Signature
  address : String
  /-- The value authorized so far, this signature included. -/
  used : Nat
  deriving DecidableEq

namespace Keeper

/-- A keeper without a session. -/
def vacant (signer : Signer) (lifetime : Nat) : Keeper where
  signer := signer
  lifetime := lifetime
  held := none

/-- The keeper without its session. -/
def cleared (keeper : Keeper) : Keeper :=
  { keeper with held := none }

/-- Start a fresh session.  Whatever session was held is discarded first, also
if the key turns out to be no key.  A session may end at any moment, however late: that
the moments of a machine end as well, near `2 ^ 63` seconds, is left out. -/
def activate
    (keeper : Keeper)
    (now : Nat)
    (draw : Custody.Draw)
    (key : Bytes)
    (limit : Nat) :
    Except SessionFault SessionStatus × Keeper :=
  match keeper.signer.address key with
  | .error fault => (.error (.invalidKey fault), keeper.cleared)
  | .ok address =>
      match Custody.SealedKey.ofMaterial draw key with
      | .error fault => (.error (.custody fault), keeper.cleared)
      | .ok sealedKey =>
          let session : Session := {
            sealedKey
            address
            expiresAt := now + keeper.lifetime
            limit
            used := 0
          }
          (.ok (session.status now), { keeper with held := some session })

/-- Sign a digest against a value of the session's budget. -/
def sign
    (keeper : Keeper)
    (now value : Nat)
    (digest : Digest) :
    Except SessionFault SessionSignature × Keeper :=
  match keeper.held with
  | none => (.error .noActiveSession, keeper)
  | some session =>
      if session.isExpired now then (.error .sessionExpired, keeper.cleared)
      else if session.limit < session.used + value then
        (.error (.valueLimitExceeded value session.budget), keeper)
      else
        match session.sealedKey.reveal with
        | .error fault => (.error (.custody fault), keeper)
        | .ok key =>
            match keeper.signer.sign key digest with
            | .error fault => (.error (.signingFailure fault), keeper)
            | .ok signature =>
                let used := session.used + value
                (.ok { signature, address := session.address, used },
                  { keeper with held := some { session with used } })

/-- Report the session; the second part says whether this tore an expired one
down. -/
def observe (keeper : Keeper) (now : Nat) :
    (SessionStatus × Bool) × Keeper :=
  match keeper.held with
  | none => ((.inactive, false), keeper)
  | some session =>
      if session.isExpired now then ((.inactive, true), keeper.cleared)
      else ((session.status now, false), keeper)

/-- Discard the session, live or expired. -/
def destroy (keeper : Keeper) (now : Nat) : Teardown × Keeper :=
  match keeper.held with
  | none => (.empty, keeper)
  | some session =>
      (if session.isExpired now then .expired else .destroyed, keeper.cleared)

/-- Whether a session is held that has not expired; tears nothing down. -/
def isActive (keeper : Keeper) (now : Nat) : Bool :=
  match keeper.held with
  | none => false
  | some session => !session.isExpired now

end Keeper

end OrderCustody
