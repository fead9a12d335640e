import OrderCustody.Calendar.Rfc3339
import OrderCustody.Json.Writer

namespace OrderCustody.Gateway

/-!
# Reports about the gateway

What monitoring reads: whether the gateway serves, and which build it is.
-/

/-- The version of the program. -/
def programVersion : String := "0.1.0"

/-- A sign of life. -/
structure Health where
  /-- Whole seconds since the gateway started. -/
  uptime : Nat
  sessionActive : Bool
  keySourceConfigured : Bool
  adminEnabled : Bool
  timestamp : Calendar.Timestamp
  deriving DecidableEq

/-- A sign of life as an object. -/
def Health.toJson (health : Health) : Json.Value :=
  .record [
    ("healthy", .flag true),
    ("version", .text programVersion),
    ("uptime", .number health.uptime),
    ("sessionActive", .flag health.sessionActive),
    ("keySourceConfigured", .flag health.keySourceConfigured),
    ("adminEnabled", .flag health.adminEnabled),
    ("timestamp", .text health.timestamp.offsetText)
  ]

/-- What is told of the program itself. -/
def versionReport : Json.Value :=
  .record [
    ("version", .text programVersion),
    ("commit", .text "unknown"),
    ("build_time", .text "unknown"),
    ("service", .text "session-signer")
  ]

end OrderCustody.Gateway
