import OrderCustody.Gateway.Basic
import OrderCustody.Settings.Basic

namespace OrderCustody

/-!
# Opening a gateway

The desk and the gateway that settings describe, with no session yet.
-/

/-- A desk with these settings, without a session. -/
def Settings.desk (settings : Settings) (signer : Signer) (trail : Audit.Trail) :
    Except FieldFault Desk := do
  let domain ← settings.domain
  let defaultLimit ← settings.defaultLimit
  return {
    domain
    defaultLimit
    keeper := Keeper.vacant signer settings.lifetime
    trail
  }

/-- The gateway that serves a desk as settings say. -/
def Settings.gateway
    (settings : Settings)
    (keySource : Option KeySource)
    (clock : Clock)
    (desk : Desk) :
    Gateway where
  adminKey := settings.adminKey
  keySource := keySource
  started := clock.elapsed
  desk := desk

end OrderCustody
