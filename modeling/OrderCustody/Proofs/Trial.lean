import Mathlib.Tactic.GCongr.Core
import OrderCustody.Desk.History
import OrderCustody.Gateway.History
import OrderCustody.Session.History

namespace OrderCustody

/-!
# A set-up for trials

A desk and a gateway with everything fixed, to try general statements out on.  The
signer takes every key and signs everything alike, so that nothing has to be computed
but custody itself.
-/

deriving instance DecidableEq for Keeper.Outcome, Desk.Outcome

namespace Trial

/-- A signer that takes every key and signs everything alike. -/
def signer : Signer where
  address _ := .ok "0x00"
  sign _ _ := .ok (.zero 65)

/-- A draw like any other. -/
def draw : Custody.Draw where
  key := .zero 32
  nonce := .zero 12
  left := .zero 32

/-- Noon on the first day of a year. -/
def clock : Clock where
  elapsed := 0
  calendar := ⟨⟨2024, 1, 1, by decide⟩, 43200, 0, by decide⟩
  regular := by decide

/-- The account in every place of an order. -/
def account : String := "0x0000000000000000000000000000000000000001"

/-- A request to sign an order of some amount. -/
def request (amount : String) : SignRequest where
  order := some {
    salt := "1"
    maker := account
    signer := account
    taker := none
    tokenId := "7"
    makerAmount := amount
    takerAmount := "80"
    expiration := none
    nonce := none
    feeRateBps := none
    side := .buy
    signatureType := 0
  }

/-- A desk that keeps sessions for a minute, with no session yet. -/
def desk : Desk where
  domain := ⟨"Desk", "1", 137, .zero 20⟩
  defaultLimit := 100
  keeper := .vacant signer 60000
  trail := .detached "desk"

/-- The desk with a session of the default limit. -/
def activeDesk : Desk :=
  (desk.activateFrom clock draw (.ok [1]) none).2

/-- A gateway in front of a desk, with an administrator's key. -/
def gateway (desk : Desk) : Gateway where
  adminKey := some "secret"
  keySource := some (.file "key")
  started := 0
  desk := desk

end Trial

end OrderCustody
