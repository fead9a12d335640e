import OrderCustody.Gateway.Basic
import OrderCustody.History

namespace OrderCustody.Gateway

/-!
# Histories of a gateway

Requests arrive one after the other, with time passing and the key file
changing in between.
-/

/-- Something that happens to a gateway. -/
inductive Happening where
  | request (draw : Custody.Draw) (request : Request)
  | advance (milliseconds : Nat)
  /-- The files are now these. -/
  | files (files : Files)

/-- A gateway at a time, with the files as they are. -/
structure Moment where
  clock : Clock
  files : Files
  gateway : Gateway

/-- One happening, and the response if it is a request. -/
def step (moment : Moment) : Happening → Option Response × Moment
  | .request draw request =>
      let around : Surroundings := { clock := moment.clock, files := moment.files, draw }
      let (response, gateway) := moment.gateway.handle around request
      (some response, { moment with gateway })
  | .advance milliseconds =>
      (none, { moment with clock := moment.clock.advance milliseconds })
  | .files files => (none, { moment with files })

/-- All happenings of a history, one after the other. -/
def run (moment : Moment) (happenings : List Happening) : List (Option Response) × Moment :=
  History.run step moment happenings

/-- A turn in a history of a gateway. -/
abbrev Turn := History.Turn Moment Happening (Option Response)

/-- What happens, with the answers to it, and with what was the case before and after. -/
def turns (moment : Moment) (happenings : List Happening) : List Turn :=
  History.turns step moment happenings

end OrderCustody.Gateway
