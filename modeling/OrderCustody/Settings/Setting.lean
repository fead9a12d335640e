import OrderCustody.Settings.Basic

namespace OrderCustody

/-!
# Single settings

Each setting has a name on the command line, an environment variable, and a
reader for its text.
-/

/-- One of the settings. -/
inductive Setting where
  | listen
  | sessionSeconds
  | valueLimit
  | keyFile
  | keyVariable
  | activateOnStart
  | adminKey
  | chainId
  | exchange
  | domainName
  | domainVersion
  | auditLog
  | logLevel
  | logJson
  deriving DecidableEq, Repr

namespace Setting

/-- The settings in the order in which the environment is asked for them. -/
def all : List Setting := [
  listen, sessionSeconds, valueLimit, keyFile, keyVariable, activateOnStart,
  adminKey, chainId, exchange, domainName, domainVersion, auditLog, logLevel,
  logJson
]

/-- The name on the command line, without its dashes. -/
def name : Setting → String
  | listen => "listen"
  | sessionSeconds => "session-ttl-seconds"
  | valueLimit => "max-value-limit"
  | keyFile => "key-file"
  | keyVariable => "key-env"
  | activateOnStart => "activate-on-start"
  | adminKey => "api-key-admin"
  | chainId => "chain-id"
  | exchange => "exchange-address"
  | domainName => "domain-name"
  | domainVersion => "domain-version"
  | auditLog => "audit-log"
  | logLevel => "log-level"
  | logJson => "log-json"

/-- The variable that a setting can be given by. -/
def environmentName : Setting → String
  | listen => "LISTEN"
  | sessionSeconds => "SESSION_TTL_SECONDS"
  | valueLimit => "MAX_VALUE_LIMIT"
  | keyFile => "SIGNER_KEY_FILE"
  | keyVariable => "SIGNER_KEY_ENV"
  | activateOnStart => "ACTIVATE_ON_START"
  | adminKey => "API_KEY_ADMIN"
  | chainId => "CHAIN_ID"
  | exchange => "EXCHANGE_ADDRESS"
  | domainName => "EIP712_DOMAIN_NAME"
  | domainVersion => "EIP712_DOMAIN_VERSION"
  | auditLog => "AUDIT_LOG_PATH"
  | logLevel => "LOG_LEVEL"
  | logJson => "LOG_JSON"

/-- Whether the setting stands on the command line without a value. -/
def isFlag (setting : Setting) : Bool :=
  setting == logJson

/-- The setting of a name. -/
def named? (name : String) : Option Setting :=
  all.find? (·.name == name)

/-- Why the text of a setting is refused. -/
inductive Fault where
  /-- The text is not one of those allowed. -/
  | notAllowed
  /-- The text is not of the right form. -/
  | malformed
  deriving DecidableEq, Repr

/-- A number of sixty-four bits; a plus sign may stand in front. -/
def word (text : String) : Except Fault UInt64 :=
  let digits := match text.toList with
    | '+' :: rest => String.ofList rest
    | _ => text
  match Decimal.parse? digits with
  | some number =>
      if number < UInt64.size then .ok (UInt64.ofNat number) else .error .malformed
  | none => .error .malformed

/-- A truth value. -/
def flag : String → Except Fault Bool
  | "true" => .ok true
  | "false" => .ok false
  | _ => .error .notAllowed

/-- The name of a file, which is not empty. -/
def path (text : String) : Except Fault String :=
  if text.isEmpty then .error .notAllowed else .ok text

/-- An address to listen at. -/
def socketAddress (text : String) : Except Fault SocketAddress :=
  match SocketAddress.parse? text with
  | some address => .ok address
  | none => .error .malformed

/-- The settings with one of them set from its text. -/
def assign (setting : Setting) (text : String) (settings : Settings) :
    Except Fault Settings :=
  match setting with
  | listen => do return { settings with listen := ← socketAddress text }
  | sessionSeconds => do return { settings with sessionSeconds := ← word text }
  | valueLimit => .ok { settings with valueLimit := text }
  | keyFile => do return { settings with keyFile := some (← path text) }
  | keyVariable => .ok { settings with keyVariable := some text }
  | activateOnStart => do return { settings with activateOnStart := ← flag text }
  | adminKey => .ok { settings with adminKey := some text }
  | chainId => do return { settings with chainId := ← word text }
  | exchange => .ok { settings with exchange := text }
  | domainName => .ok { settings with domainName := text }
  | domainVersion => .ok { settings with domainVersion := text }
  | auditLog => do return { settings with auditLog := some (← path text) }
  | logLevel => .ok { settings with logLevel := text }
  | logJson => do return { settings with logJson := ← flag text }

end Setting

end OrderCustody
