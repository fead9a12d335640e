import OrderCustody.Binary64.Shortest
import OrderCustody.Text.Quoted

namespace OrderCustody.Json

/-!
# Why a JSON text is refused

Reading reports the first thing that is wrong from left to right: a violation
of the grammar, a value of the wrong kind where a member of a known kind is
expected, or a member that is missing, unknown or given twice.
-/

/-- What was being read when the text ended. -/
inductive Unfinished where
  | value
  | object
  | list
  | text
  deriving DecidableEq, Repr

/-- The name of what was being read. -/
def Unfinished.name : Unfinished → String
  | value => "a value"
  | object => "an object"
  | list => "a list"
  | text => "a string"

/-- A number as it was read. -/
inductive Number where
  /-- An integer without a sign, below `2 ^ 64`. -/
  | natural (value : Nat)
  /-- An integer below zero, at least `-2 ^ 63`. -/
  | negative (value : Int)
  /-- Any other number, rounded. -/
  | rounded (negative : Bool) (magnitude : Binary64)
  deriving DecidableEq, Repr

/-- A value of another kind than expected. -/
inductive Found where
  | null
  | flag (value : Bool)
  | number (value : Number)
  | text (value : String)
  | list
  | object
  deriving DecidableEq, Repr

/-- How a value is named where another one was expected. -/
def Found.description : Found → String
  | null => "null"
  | flag value => "boolean `" ++ (if value then "true" else "false") ++ "`"
  | number (.natural value) => "integer `" ++ toString value ++ "`"
  | number (.negative value) => "integer `" ++ toString value ++ "`"
  | number (.rounded negative magnitude) =>
      "floating point `" ++ (if negative then "-" else "") ++
        magnitude.text ++ "`"
  | text value => "string " ++ Text.quoted value
  | list => "sequence"
  | object => "map"

/-- Why a text is refused. -/
inductive Cause where
  | unfinished (part : Unfinished)
  | expectedValue
  | expectedLiteral
  | expectedColon
  | expectedCommaOrBrace
  | expectedCommaOrBracket
  | keyNotText
  | trailingComma
  | trailingCharacters
  | invalidNumber
  | numberOutOfRange
  | invalidEscape
  | endOfHexEscape
  | loneSurrogate
  | controlCharacter
  | notUnicode
  | wrongKind (found : Found) (expected : String)
  | outOfRange (found : Number) (expected : String)
  | wrongLength (length : Nat) (record : String) (size : Nat)
  | missingMember (name : String)
  | duplicateMember (name : String)
  | unknownChoice (name : String) (choices : List String)
  /-- The text of a member is refused by the format it is written in. -/
  | refusedText (detail : String)
  deriving DecidableEq, Repr

/-- How the names that would have been understood are listed. -/
def choicePhrase : List String → String
  | [] => "there are no variants"
  | [only] => "expected `" ++ only ++ "`"
  | [first, second] => "expected `" ++ first ++ "` or `" ++ second ++ "`"
  | many =>
      "expected one of " ++
        ", ".intercalate (many.map fun name => "`" ++ name ++ "`")

/-- The text of a cause.  The line and the column at which reading stopped, which belong
behind it, are left out. -/
def Cause.message : Cause → String
  | unfinished part => "EOF while parsing " ++ part.name
  | expectedValue => "expected value"
  | expectedLiteral => "expected ident"
  | expectedColon => "expected `:`"
  | expectedCommaOrBrace => "expected `,` or `\x7d`"
  | expectedCommaOrBracket => "expected `,` or `]`"
  | keyNotText => "key must be a string"
  | trailingComma => "trailing comma"
  | trailingCharacters => "trailing characters"
  | invalidNumber => "invalid number"
  | numberOutOfRange => "number out of range"
  | invalidEscape => "invalid escape"
  | endOfHexEscape => "unexpected end of hex escape"
  | loneSurrogate => "lone leading surrogate in hex escape"
  | controlCharacter =>
      "control character (\\u0000-\\u001F) found while parsing a string"
  | notUnicode => "invalid unicode code point"
  | wrongKind found expected =>
      "invalid type: " ++ found.description ++ ", expected " ++ expected
  | outOfRange found expected =>
      "invalid value: " ++ (Found.number found).description ++
        ", expected " ++ expected
  | wrongLength length record size =>
      "invalid length " ++ toString length ++ ", expected struct " ++ record ++
        " with " ++ toString size ++
        (if size = 1 then " element" else " elements")
  | missingMember name => "missing field `" ++ name ++ "`"
  | duplicateMember name => "duplicate field `" ++ name ++ "`"
  | unknownChoice name choices =>
      "unknown variant `" ++ name ++ "`, " ++ choicePhrase choices
  | refusedText detail => detail

end OrderCustody.Json
