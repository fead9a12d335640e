import OrderCustody.Bytes.Hex

namespace OrderCustody.Json

/-!
# Writing values

Values are written without any blank.  Inside a text only the quote, the
backslash and the controls below the space are escaped; everything else stands
as itself.
-/

/-- A value to be written. -/
inductive Value where
  | null
  | flag (value : Bool)
  | number (value : Nat)
  | text (value : String)
  | record (members : List (String × Value))

namespace Value

/-- A text, or nothing. -/
def optionalText : Option String → Value
  | some value => text value
  | none => null

end Value

/-- A character as it stands in a text between quotes. -/
def escaped (c : Char) : List Char :=
  if c = '"' then ['\\', '"']
  else if c = '\\' then ['\\', '\\']
  else if c = '\x08' then ['\\', 'b']
  else if c = '\t' then ['\\', 't']
  else if c = '\n' then ['\\', 'n']
  else if c = '\x0c' then ['\\', 'f']
  else if c = '\r' then ['\\', 'r']
  else if c < ' ' then
    ['\\', 'u', '0', '0', Hex.digit (c.toNat / 16), Hex.digit (c.toNat % 16)]
  else [c]

/-- A text between quotes. -/
def writeText (value : String) : List Char :=
  '"' :: (value.toList.flatMap escaped ++ ['"'])

mutual

/-- The characters of a value, without any blanks. -/
def Value.write : Value → List Char
  | .null => ['n', 'u', 'l', 'l']
  | .flag true => ['t', 'r', 'u', 'e']
  | .flag false => ['f', 'a', 'l', 's', 'e']
  | .number value => (toString value).toList
  | .text value => writeText value
  | .record [] => ['{', '}']
  | .record ((name, value) :: members) =>
      '{' :: (writeText name ++ ':' :: (value.write ++ writeRest members))

/-- The characters of the members behind the first one, and the closing
brace. -/
def writeRest : List (String × Value) → List Char
  | [] => ['}']
  | (name, value) :: members =>
      ',' :: (writeText name ++ ':' :: (value.write ++ writeRest members))

end

/-- The text of a value. -/
def Value.render (value : Value) : String :=
  String.ofList value.write

end OrderCustody.Json
