import OrderCustody.Custody.SealedKey
import OrderCustody.KeySource.Material
import OrderCustody.Text.Quoted

namespace OrderCustody

/-!
# Key sources

Where the key of a session comes from: a file that is read on every load, or an
environment variable that is read once, removed, and kept sealed from then on.
-/

/-- Why a file cannot be read or opened. -/
inductive FileFault where
  /-- Nothing has that name. -/
  | notFound
  /-- A directory has that name. -/
  | isDirectory
  /-- Something on the way is not a directory. -/
  | notDirectory
  /-- The file holds bytes that are no text. -/
  | notText
  /-- The operating system gave another reason. -/
  | other (detail : String)
  deriving DecidableEq, Repr

/-- The text of a fault. -/
def FileFault.message : FileFault → String
  | notFound => "No such file or directory (os error 2)"
  | isDirectory => "Is a directory (os error 21)"
  | notDirectory => "Not a directory (os error 20)"
  | notText => "stream did not contain valid UTF-8"
  | other detail => detail

/-- What can be read: the bytes of each file, or why there are none. -/
abbrev Files := String → Except FileFault Bytes

/-- Environment variables, in the order they were set. -/
abbrev Environment := List (String × String)

namespace Environment

/-- The value of a variable, if it is set. -/
def get? (environment : Environment) (name : String) : Option String :=
  (List.find? (·.1 == name) environment).map (·.2)

/-- The environment without a variable. -/
def unset (environment : Environment) (name : String) : Environment :=
  List.filter (·.1 != name) environment

end Environment

namespace KeySource

/-- Why a key source gives no key. -/
inductive Fault where
  | unreadable (path : String) (fault : FileFault)
  | unset (name : String)
  | notHex
  | empty
  | custody (fault : Custody.Fault)
  deriving DecidableEq, Repr

/-- The text of a fault. -/
def Fault.message : Fault → String
  | unreadable path fault =>
      "Failed to read key file " ++ path ++ ": " ++ fault.message
  | unset name => "Environment variable " ++ name ++ " is not set"
  | notHex => "Key material is not valid hex"
  | empty => "Key material is empty"
  | custody fault => fault.message

/-- A fault of key text as a fault of its source. -/
def TextFault.toFault : TextFault → Fault
  | notHex => .notHex
  | empty => .empty

end KeySource

/-- A supplier of key material. -/
inductive KeySource where
  /-- A file with the key as text. -/
  | file (path : String)
  /-- A variable that held the key, and the key sealed. -/
  | environment (name : String) (sealedKey : Custody.SealedKey)
  deriving DecidableEq

namespace KeySource

/-- The text of a file, which must be UTF-8. -/
def readText (files : Files) (path : String) : Except FileFault String := do
  let bytes ← files path
  match bytes.toText? with
  | some text => .ok text
  | none => .error .notText

/-- The key of a source: a file is read anew each time, what a variable held was sealed
once. -/
def load (files : Files) : KeySource → Except Fault Bytes
  | file path =>
      match readText files path with
      | .ok text => (readKey text).mapError TextFault.toFault
      | .error fault => .error (.unreadable path fault)
  | environment _ sealedKey => sealedKey.reveal.mapError .custody

/-- What is said of a source in logs; never the key. -/
def describe : KeySource → String
  | file path => "file:" ++ path
  | environment name _ => "env:" ++ name

/-- What is shown of a source taken from a variable in diagnostics. -/
def environmentSummary (name : String) (sealedKey : Custody.SealedKey) : String :=
  "EnvKeySource \x7b var: " ++ Text.quoted name ++ ", sealed: " ++
    sealedKey.summary ++ " \x7d"

/-- Take the key out of a variable: the variable is removed whatever it holds,
and what it holds is sealed. -/
def consume
    (draw : Custody.Draw)
    (environment : Environment)
    (name : String) :
    Except Fault KeySource × Environment :=
  match environment.get? name with
  | none => (.error (.unset name), environment)
  | some text =>
      let taken : Except Fault KeySource := do
        let key ← (readKey text).mapError TextFault.toFault
        let sealedKey ←
          (Custody.SealedKey.ofMaterial draw key).mapError .custody
        return .environment name sealedKey
      (taken, environment.unset name)

end KeySource

end OrderCustody
