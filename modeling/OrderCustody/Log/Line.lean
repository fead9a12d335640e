import OrderCustody.Json.Writer

namespace OrderCustody.Log

/-!
# Log lines

What the program says while it runs: a level, a message, and fields with names.
-/

/-- How urgent a line is. -/
inductive Level where
  | error
  | warn
  | info
  | debug
  | trace
  deriving DecidableEq, Repr

namespace Level

/-- The rank of a level, the most urgent first. -/
def rank : Level → Nat
  | error => 1
  | warn => 2
  | info => 3
  | debug => 4
  | trace => 5

/-- The name of a level. -/
def name : Level → String
  | error => "ERROR"
  | warn => "WARN"
  | info => "INFO"
  | debug => "DEBUG"
  | trace => "TRACE"

end Level

/-- The value of a field. -/
inductive FieldValue where
  | text (value : String)
  | number (value : Nat)
  deriving DecidableEq, Repr

namespace FieldValue

/-- The value of a field in a line of plain text. -/
def plain : FieldValue → String
  | text value => value
  | number value => toString value

/-- The value of a field in a line of JSON. -/
def toJson : FieldValue → Json.Value
  | text value => .text value
  | number value => .number value

end FieldValue

/-- One line of the log. -/
structure Line where
  level : Level
  message : String
  fields : List (String × FieldValue)
  deriving DecidableEq, Repr

namespace Line

/-- A line without fields. -/
def plain (level : Level) (message : String) : Line where
  level := level
  message := message
  fields := []

/-- An error without fields. -/
def error (message : String) : Line :=
  plain .error message

/-- An information without fields. -/
def info (message : String) : Line :=
  plain .info message

/-- The names of a line's fields, of which the message is one. -/
def fieldNames (line : Line) : List String :=
  "message" :: line.fields.map (·.1)

/-- The fields behind the message, each with its name. -/
def fieldsText (line : Line) : String :=
  String.join (line.fields.map fun (name, value) => " " ++ name ++ "=" ++ value.plain)

/-- A line in plain text, without its time and its colours. -/
def text (line : Line) : String :=
  line.level.name ++ " " ++ line.message ++ line.fieldsText

/-- A line in JSON, without its time. -/
def toJson (target : String) (line : Line) : Json.Value :=
  .record [
    ("level", .text line.level.name),
    ("fields", .record
      (("message", .text line.message) ::
        line.fields.map fun (name, value) => (name, value.toJson))),
    ("target", .text target)
  ]

end Line

end OrderCustody.Log
