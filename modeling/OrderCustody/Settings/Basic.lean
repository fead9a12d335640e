import OrderCustody.KeySource.Basic
import OrderCustody.Network.SocketAddress
import OrderCustody.Order.Field
import OrderCustody.TypedData.Domain

namespace OrderCustody

/-!
# Settings

Everything an operator can choose, its defaults, the checks made before
anything starts, and what the rest of the program takes from it.
-/

/-- What an operator has chosen. -/
structure Settings where
  /-- Where to listen. -/
  listen : SocketAddress
  /-- Lifetime of a session in seconds. -/
  sessionSeconds : UInt64
  /-- The limit of sessions that name none, as written. -/
  valueLimit : String
  /-- The file that holds the key. -/
  keyFile : Option String
  /-- The environment variable that holds the key. -/
  keyVariable : Option String
  /-- Whether to activate a session at the start. -/
  activateOnStart : Bool
  /-- The key that administration asks for. -/
  adminKey : Option String
  chainId : UInt64
  /-- The contract that orders are signed for, as written. -/
  exchange : String
  domainName : String
  domainVersion : String
  /-- The file that the audit trail is appended to. -/
  auditLog : Option String
  logLevel : String
  /-- Whether log lines are JSON. -/
  logJson : Bool
  deriving DecidableEq

namespace Settings

/-- The settings of an operator who chooses nothing. -/
def default : Settings where
  listen := .four (SocketAddress.host 4 [127, 0, 0, 1]) 8090
  sessionSeconds := 3600
  valueLimit := "1000000000"
  keyFile := none
  keyVariable := none
  activateOnStart := true
  adminKey := none
  chainId := 137
  exchange := "0x4bFb41d5B3570DeFd03C39a9A4D8dE6Bd8B8982E"
  domainName := "Polymarket CTF Exchange"
  domainVersion := "1"
  auditLog := none
  logLevel := "info"
  logJson := false

/-- Why settings are refused. -/
inductive Fault where
  /-- Sessions would have no time at all. -/
  | noLifetime
  /-- The limit is no decimal number. -/
  | limitNotDecimal (value : String)
  /-- Both a file and a variable should hold the key. -/
  | twoKeySources
  /-- The exchange is no address. -/
  | exchange (fault : FieldFault)
  deriving DecidableEq, Repr

/-- How a field at fault is described among settings. -/
def fieldMessage (fault : FieldFault) : String :=
  "Invalid input: " ++ fault.message

/-- The text of a fault. -/
def Fault.message : Fault → String
  | noLifetime => "SESSION_TTL_SECONDS must be greater than zero"
  | limitNotDecimal value =>
      "MAX_VALUE_LIMIT must be a non-negative decimal integer, got " ++ Text.quoted value
  | twoKeySources => "Set only one of SIGNER_KEY_FILE and SIGNER_KEY_ENV"
  | exchange fault => fieldMessage fault

/-- The limit of sessions that name none. -/
def defaultLimit (settings : Settings) : Except FieldFault Nat :=
  Field.decimal "MAX_VALUE_LIMIT" settings.valueLimit

/-- The contract that orders are signed for. -/
def exchangeAddress (settings : Settings) : Except FieldFault Address :=
  Field.address "EXCHANGE_ADDRESS" settings.exchange

/-- The domain that orders are hashed in. -/
def domain (settings : Settings) : Except FieldFault TypedData.Domain := do
  let verifyingContract ← settings.exchangeAddress
  return {
    name := settings.domainName
    version := settings.domainVersion
    chainId := settings.chainId
    verifyingContract
  }

/-- The checks made before anything starts; the first fault is reported. -/
def validate (settings : Settings) : Except Fault Unit := do
  if settings.sessionSeconds = 0 then throw .noLifetime
  match settings.defaultLimit with
  | .ok _ => pure ()
  | .error _ => throw (.limitNotDecimal settings.valueLimit)
  if settings.keyFile.isSome && settings.keyVariable.isSome then
    throw .twoKeySources
  match settings.exchangeAddress with
  | .ok _ => pure ()
  | .error fault => throw (.exchange fault)

/-- Milliseconds that a session lives. -/
def lifetime (settings : Settings) : Nat :=
  settings.sessionSeconds.toNat * 1000

/-- Whether sessions can be administered: only with a key that is not empty. -/
def adminEnabled (settings : Settings) : Bool :=
  match settings.adminKey with
  | some key => !key.isEmpty
  | none => false

/-- The key source that is configured, if any.  A file goes before a variable;
only a variable is read now, and then it is removed. -/
def keySource
    (settings : Settings)
    (draw : Custody.Draw)
    (environment : Environment) :
    Except KeySource.Fault (Option KeySource) × Environment :=
  match settings.keyFile, settings.keyVariable with
  | some path, _ => (.ok (some (.file path)), environment)
  | none, none => (.ok none, environment)
  | none, some name =>
      let (consumed, left) := KeySource.consume draw environment name
      (consumed.map some, left)

end Settings

end OrderCustody
