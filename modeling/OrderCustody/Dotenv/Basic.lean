import OrderCustody.Dotenv.Lines
import OrderCustody.Dotenv.Value

namespace OrderCustody.Dotenv

/-!
# Environment files

The file `.env` of the working directory sets variables that the environment
does not have.  Its lines take effect in order up to the first one that cannot
be read; everything behind that is ignored.
-/

/-- The name of the file. -/
def fileName : String := ".env"

/-- Whether a name may start with a character. -/
def isNameStart (c : Char) : Bool :=
  c.isAlpha || c == '_'

/-- Whether a name may go on with a character. -/
def isNamePart (c : Char) : Bool :=
  c.isAlphanum || c == '_' || c == '.'

/-- A name in front, and what follows it and the blanks behind it. -/
def name? (characters : List Char) : Option (String × List Char) :=
  match characters with
  | first :: _ =>
      if isNameStart first then
        some (String.ofList (characters.takeWhile isNamePart),
          Text.trimStart (characters.dropWhile isNamePart))
      else none
  | [] => none

/-- What follows an equals sign. -/
def behindEquals? : List Char → Option (List Char)
  | '=' :: rest => some rest
  | _ => none

/-- The name that a line sets, and what stands behind the equals sign; `export`
may stand in front, or be the name. -/
def assignment? (characters : List Char) : Option (String × List Char) := do
  let (name, rest) ← name? characters
  match behindEquals? rest with
  | some value => return (name, value)
  | none =>
      if name = "export" then
        let (name, rest) ← name? rest
        let value ← behindEquals? rest
        return (name, value)
      else failure

/-- Whether nothing but a comment is left. -/
def isBare (characters : List Char) : Bool :=
  characters.isEmpty || characters.head? == some '#'

/-- The environment with the values that earlier lines gave. -/
structure Progress where
  environment : Environment
  /-- What earlier lines set, the latest first, also what the environment
  already had. -/
  stored : Environment

/-- The value of a variable where a value names it: that of the environment,
else what an earlier line gave, else nothing. -/
def Progress.valueOf (progress : Progress) (name : String) : String :=
  ((progress.environment.get? name) <|> (progress.stored.get? name)).getD ""

/-- Set a variable unless the environment has it. -/
def Progress.set (progress : Progress) (name value : String) : Progress where
  environment :=
    match progress.environment.get? name with
    | some _ => progress.environment
    | none => progress.environment ++ [(name, value)]
  stored := (name, value) :: progress.stored

/-- One line; nothing if it cannot be read. -/
def line? (progress : Progress) (line : List Char) : Option Progress :=
  let characters := Text.trimStart (Text.trimEnd line)
  if isBare characters then some progress
  else do
    let (name, rest) ← assignment? characters
    let text := Text.trimStart rest
    if isBare text then return progress.set name ""
    let value ← value? progress.valueOf text
    return progress.set name value

/-- Lines up to the first that cannot be read. -/
def apply (progress : Progress) : List (Option (List Char)) → Progress
  | some line :: rest =>
      match line? progress line with
      | some next => apply next rest
      | none => progress
  | _ => progress

/-- The environment with what the file adds to it, if there is one. -/
def load (files : Files) (environment : Environment) : Environment :=
  match files fileName with
  | .ok bytes =>
      (apply { environment, stored := [] } (lines bytes)).environment
  | .error _ => environment

end OrderCustody.Dotenv
