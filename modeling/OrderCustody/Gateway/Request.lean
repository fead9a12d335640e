import OrderCustody.Refusal
import OrderCustody.Text.Blank

namespace OrderCustody.Gateway

/-!
# Requests

A request as the gateway looks at it: its method, its target, its header fields
and its body.
-/

/-- A header field; its value is any bytes. -/
structure HeaderField where
  name : String
  value : Bytes
  deriving DecidableEq

/-- A request, with as much of its body as has arrived.  A body may break off, or be
framed in a way that cannot be undone; it is complete then no more. -/
structure Request where
  method : String
  target : String
  headers : List HeaderField
  body : Bytes
  complete : Bool := true
  deriving DecidableEq

/-- The most bytes a body may have. -/
def maxBodyBytes : Nat := 64 * 1024

/-- Whether a byte may stand in the text of a header field: a tab, or what is
visible in ASCII with the space. -/
def isFieldByte (byte : UInt8) : Bool :=
  byte == 9 || (32 ≤ byte && byte ≤ 126)

/-- Whether a byte is a space or a tab. -/
def isPadding (byte : UInt8) : Bool :=
  byte == 9 || byte == 32

/-- Bytes without the spaces and tabs around them. -/
def withoutPadding (bytes : Bytes) : Bytes :=
  ((bytes.dropWhile isPadding).reverse.dropWhile isPadding).reverse

/-- The text of a header field's value, if it is text. -/
def HeaderField.text? (field : HeaderField) : Option (List Char) :=
  let value := withoutPadding field.value
  if value.all isFieldByte then
    some (value.map fun byte => Char.ofNat byte.toNat)
  else none

/-- Whether a header field has a name; the case of letters does not count. -/
def HeaderField.isNamed (name : String) (field : HeaderField) : Bool :=
  field.name.toList.map Char.toLower == name.toList.map Char.toLower

namespace Request

/-- The text of the first header field of a name, if there is one and it is
text. -/
def header? (request : Request) (name : String) : Option (List Char) :=
  (request.headers.find? (HeaderField.isNamed name)).bind HeaderField.text?

/-- Whether a character ends a path: a query or a fragment follows it. -/
def endsPath (c : Char) : Bool :=
  c == '?' || c == '#'

/-- What follows a scheme and a host, or the root if nothing does. -/
def pathBehindHost (characters : List Char) : List Char :=
  match characters.dropWhile fun c => c != '/' && !endsPath c with
  | '/' :: rest => '/' :: rest
  | _ => ['/']

/-- What follows the first `://`, if there is one. -/
def behindScheme? : List Char → Option (List Char)
  | ':' :: '/' :: '/' :: rest => some rest
  | _ :: rest => behindScheme? rest
  | [] => none

/-- The path of a target: all of it in front of its query and its fragment; of a target
with a scheme and a host, what follows them; and nothing of a bare host. -/
def pathOf (target : String) : String :=
  let bare (characters : List Char) : String :=
    String.ofList (characters.takeWhile fun c => !endsPath c)
  match target.toList with
  | '/' :: rest => bare ('/' :: rest)
  | ['*'] => "*"
  | characters =>
      match behindScheme? characters with
      | some rest => bare (pathBehindHost rest)
      | none => ""

/-- The path that a request asks for. -/
def path (request : Request) : String :=
  pathOf request.target

/-- The body of a request can be read: all of it has arrived, and it is not too large. -/
def Readable (request : Request) : Prop :=
  request.complete = true ∧ request.body.length ≤ maxBodyBytes

instance (request : Request) : Decidable request.Readable :=
  inferInstanceAs (Decidable (_ ∧ _))

/-- The body of a request, if it can be read. -/
def readBody (request : Request) : Except Refusal Bytes :=
  if request.Readable then .ok request.body
  else
    .error (.invalidInput
      ("request body unreadable or larger than " ++
        Decimal.text maxBodyBytes ++ " bytes"))

end Request

end OrderCustody.Gateway
