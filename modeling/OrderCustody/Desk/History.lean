import OrderCustody.Desk.Basic
import OrderCustody.History

namespace OrderCustody.Desk

/-!
# Histories of a desk

A history is a list of operations, with the passing of time among them.  Running
it gives the outcome of each operation and the state at the end.
-/

/-- An operation, or the passing of time. -/
inductive Operation where
  /-- A key source was asked for its key. -/
  | activate
      (draw : Custody.Draw)
      (loaded : Except KeySource.Fault Bytes)
      (limit : Option Nat)
  | sign (request : SignRequest)
  | status
  | destroy
  | advance (milliseconds : Nat)

/-- What an operation gives. -/
inductive Outcome where
  | activated (result : Except Refusal SessionReport)
  | signed (result : Except Refusal SignResponse)
  | reported (report : SessionReport)
  | destroyed (found : Teardown)
  | advanced

/-- A desk at a time. -/
structure Moment where
  clock : Clock
  desk : Desk

/-- What comes of one operation, and where it leads. -/
def step (moment : Moment) : Operation → Outcome × Moment
  | .activate draw loaded limit =>
      let (result, desk) := moment.desk.activateFrom moment.clock draw loaded limit
      (.activated result, { moment with desk })
  | .sign request =>
      let (result, desk) := moment.desk.signOrder moment.clock request
      (.signed result, { moment with desk })
  | .status =>
      let (report, desk) := moment.desk.sessionStatus moment.clock
      (.reported report, { moment with desk })
  | .destroy =>
      let (found, desk) := moment.desk.destroy moment.clock
      (.destroyed found, { moment with desk })
  | .advance milliseconds =>
      (.advanced, { moment with clock := moment.clock.advance milliseconds })

/-- All operations of a history, one after the other. -/
def run (moment : Moment) (operations : List Operation) : List Outcome × Moment :=
  History.run step moment operations

/-- A turn in a history of a desk. -/
abbrev Turn := History.Turn Moment Operation Outcome

/-- The operations with what came of each, and with what was the case before and after. -/
def turns (moment : Moment) (operations : List Operation) : List Turn :=
  History.turns step moment operations

end OrderCustody.Desk
