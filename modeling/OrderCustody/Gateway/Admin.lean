import OrderCustody.Gateway.Request

namespace OrderCustody.Gateway

/-!
# Administration

Sessions are administered by whoever presents the configured key, either behind
`Bearer ` in the `Authorization` field or in the `X-API-Key` field.  Where no
key is configured, administration does not exist.
-/

/-- What follows some characters in front, if they stand there. -/
def following? : (front characters : List Char) → Option (List Char)
  | [], characters => some characters
  | _ :: _, [] => none
  | expected :: front, c :: rest =>
      if expected = c then following? front rest else none

/-- The key behind `Bearer ` in the authorization field. -/
def bearerKey? (request : Request) : Option (List Char) := do
  let value ← request.header? "authorization"
  let key ← following? "Bearer ".toList value
  return Text.trim key

/-- The key that a request presents; the authorization field goes first. -/
def presentedKey? (request : Request) : Option (List Char) :=
  bearerKey? request <|> (request.header? "x-api-key").map Text.trim

/-- Whether a request may administer sessions. -/
def authorize (adminKey : Option String) (request : Request) :
    Except Refusal Unit :=
  let disabled : Except Refusal Unit :=
    .error (.notFound "admin routes are disabled")
  match adminKey with
  | none => disabled
  | some expected =>
      if expected.isEmpty then disabled
      else
        match presentedKey? request with
        | none => .error (.unauthorized "admin key required")
        | some key =>
            if key = expected.toList then .ok ()
            else .error (.unauthorized "invalid admin key")

end OrderCustody.Gateway
