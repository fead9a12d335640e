import OrderCustody.Settings.Setting

namespace OrderCustody

/-!
# The command line

Settings are read from the command line, then from the environment for those
that the command line leaves out, and the rest keep their defaults.

A value stands behind an equals sign or in the next argument.  In the latter
case it is checked only when the next option starts or the line ends, so that
an argument no one expects is reported before a bad value in front of it.
-/

namespace CommandLine

/-- Why a command line or environment is refused. -/
inductive Fault where
  /-- Help was asked for. -/
  | help
  /-- An argument that no one expects. -/
  | unknown (argument : String)
  /-- A setting is given twice. -/
  | repeated (setting : Setting)
  /-- A setting lacks its value. -/
  | valueMissing (setting : Setting)
  /-- A value where none belongs. -/
  | valueNotExpected (name : String)
  /-- A value that is not allowed, or not of the right form. -/
  | badValue (setting : Setting) (fault : Setting.Fault) (text : String)
  deriving DecidableEq, Repr

/-- The text of a fault; help is asked for, and lists the settings. -/
def Fault.message : Fault → String
  | help => "Settings: " ++ " ".intercalate (Setting.all.map fun setting => "--" ++ setting.name)
  | unknown argument => "unexpected argument " ++ argument
  | repeated setting => "--" ++ setting.name ++ " is given more than once"
  | valueMissing setting => "--" ++ setting.name ++ " lacks its value"
  | valueNotExpected name => "--" ++ name ++ " takes no value"
  | badValue setting _ text => "bad value for --" ++ setting.name ++ ": " ++ Text.quoted text

/-- An argument by its form. -/
inductive Argument where
  /-- Two dashes: no options follow. -/
  | terminator
  /-- A name behind two dashes, with what stands behind an equals sign. -/
  | long (name : String) (value : Option String)
  /-- One dash with letters behind it. -/
  | short (first : Char) (rest : String)
  /-- Anything else. -/
  | plain (text : String)
  deriving DecidableEq, Repr

/-- The argument that a word of the command line is. -/
def Argument.ofText (text : String) : Argument :=
  match text.toList with
  | ['-', '-'] => .terminator
  | '-' :: '-' :: rest =>
      let name := String.ofList (rest.takeWhile (· != '='))
      match rest.dropWhile (· != '=') with
      | _ :: value => .long name (some (String.ofList value))
      | [] => .long name none
  | '-' :: first :: rest => .short first (String.ofList rest)
  | _ => .plain text

/-- How far a command line has been read. -/
structure Progress where
  settings : Settings
  /-- The settings that were given. -/
  given : List Setting
  /-- The last option, if its value stands in an argument of its own and has
  not been checked; nothing in place of the value if it is still to come. -/
  pending : Option (Setting × Option String)

namespace Progress

/-- Nothing is given. -/
def start : Progress where
  settings := Settings.default
  given := []
  pending := none

/-- A setting is given a value, which it may be only once. -/
def give (progress : Progress) (setting : Setting) (text : String) :
    Except Fault Progress :=
  if setting ∈ progress.given then .error (.repeated setting)
  else
    match setting.assign text progress.settings with
    | .ok settings => .ok { progress with settings, given := setting :: progress.given }
    | .error fault => .error (.badValue setting fault text)

/-- What is given once no value follows the last setting any more. -/
def settle (progress : Progress) : Except Fault Progress :=
  let settled := { progress with pending := none }
  match progress.pending with
  | none => .ok settled
  | some (setting, none) => .error (.valueMissing setting)
  | some (setting, some text) => settled.give setting text

/-- What is given with one more argument. -/
def step (progress : Progress) (argument : Argument) : Except Fault Progress :=
  match argument with
  | .terminator => .ok progress
  | .long "help" none => do
      let _ ← progress.settle
      throw .help
  | .long "help" (some _) => .error (.valueNotExpected "help")
  | .long name value =>
      match Setting.named? name, value with
      | none, _ => .error (.unknown ("--" ++ name))
      | some setting, some text =>
          if setting.isFlag then .error (.valueNotExpected name)
          else do
            let settled ← progress.settle
            settled.give setting text
      | some setting, none => do
          let settled ← progress.settle
          if setting.isFlag then settled.give setting "true"
          else return { settled with pending := some (setting, none) }
  | .short 'h' _ => do
      let _ ← progress.settle
      throw .help
  | .short first rest => .error (.unknown ("-" ++ String.singleton first ++ rest))
  | .plain text =>
      match progress.pending with
      | some (setting, none) =>
          .ok { progress with pending := some (setting, some text) }
      | _ => .error (.unknown text)

/-- Read all arguments; none may follow the terminator. -/
def run (progress : Progress) : List String → Except Fault Progress
  | [] => progress.settle
  | argument :: rest =>
      match Argument.ofText argument, rest with
      | .terminator, [] => progress.settle
      | .terminator, unexpected :: _ => .error (.unknown unexpected)
      | parsed, _ => do
          let next ← progress.step parsed
          next.run rest

/-- Take a setting from the environment unless the command line gave it. -/
def consult (environment : Environment) (progress : Progress) (setting : Setting) :
    Except Fault Progress :=
  if setting ∈ progress.given then .ok progress
  else
    match environment.get? setting.environmentName with
    | some text => progress.give setting text
    | none => .ok progress

end Progress

end CommandLine

/-- The settings that a command line and an environment make. -/
def Settings.read (arguments : List String) (environment : Environment) :
    Except CommandLine.Fault Settings := do
  let progress ← CommandLine.Progress.start.run arguments
  let complete ← Setting.all.foldlM (CommandLine.Progress.consult environment) progress
  return complete.settings

end OrderCustody
