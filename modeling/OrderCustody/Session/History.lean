import OrderCustody.Session.Keeper
import OrderCustody.History

namespace OrderCustody.Keeper

/-!
# Histories of a keeper

A history is a list of operations, with the passing of time among them.  Running
it gives the outcome of each operation and the state at the end.
-/

/-- An operation, or the passing of time. -/
inductive Operation where
  | activate (draw : Custody.Draw) (key : Bytes) (limit : Nat)
  | sign (value : Nat) (digest : Digest)
  | observe
  | isActive
  | destroy
  | advance (milliseconds : Nat)
  deriving DecidableEq

/-- What an operation gives. -/
inductive Outcome where
  | activated (result : Except SessionFault SessionStatus)
  | signed (result : Except SessionFault SessionSignature)
  | observed (status : SessionStatus) (expired : Bool)
  | active (active : Bool)
  | destroyed (found : Teardown)
  | advanced

/-- A keeper at a time. -/
structure Moment where
  now : Nat
  keeper : Keeper

/-- A keeper without a session, at a time. -/
def Moment.vacant (signer : Signer) (lifetime now : Nat) : Moment where
  now := now
  keeper := Keeper.vacant signer lifetime

/-- What comes of one operation, and where it leads. -/
def step (moment : Moment) : Operation → Outcome × Moment
  | .activate draw key limit =>
      let (result, keeper) := moment.keeper.activate moment.now draw key limit
      (.activated result, { moment with keeper })
  | .sign value digest =>
      let (result, keeper) := moment.keeper.sign moment.now value digest
      (.signed result, { moment with keeper })
  | .observe =>
      let ((status, expired), keeper) := moment.keeper.observe moment.now
      (.observed status expired, { moment with keeper })
  | .isActive => (.active (moment.keeper.isActive moment.now), moment)
  | .destroy =>
      let (found, keeper) := moment.keeper.destroy moment.now
      (.destroyed found, { moment with keeper })
  | .advance milliseconds =>
      (.advanced, { moment with now := moment.now + milliseconds })

/-- All operations of a history, one after the other. -/
def run (moment : Moment) (operations : List Operation) : List Outcome × Moment :=
  History.run step moment operations

/-- A turn in a history of a keeper. -/
abbrev Turn := History.Turn Moment Operation Outcome

/-- The operations with what came of each, and with what was the case before and after. -/
def turns (moment : Moment) (operations : List Operation) : List Turn :=
  History.turns step moment operations

end OrderCustody.Keeper
