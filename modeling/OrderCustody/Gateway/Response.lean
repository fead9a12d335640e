import OrderCustody.Refusal

namespace OrderCustody.Gateway

/-!
# Responses

Everything is answered in JSON and may be read by any page but kept by no
cache.  Only the preflight of a browser gets an empty answer.
-/

/-- A response. -/
structure Response where
  status : Nat
  headers : List (String × String)
  body : String
  deriving DecidableEq, Repr

namespace Response

/-- The header fields of an answer that holds JSON. -/
def jsonHeaders : List (String × String) := [
  ("content-type", "application/json"),
  ("access-control-allow-origin", "*"),
  ("cache-control", "no-store")
]

/-- A value, with status 200. -/
def ok (value : Json.Value) : Response where
  status := 200
  headers := jsonHeaders
  body := value.render

/-- A refusal, with its own status. -/
def refused (refusal : Refusal) : Response where
  status := refusal.status
  headers := jsonHeaders
  body := refusal.toJson.render

/-- The answer to a browser that asks what it may do: anything, from anywhere. -/
def preflight : Response where
  status := 200
  headers := [
    ("access-control-allow-origin", "*"),
    ("access-control-allow-headers", "*"),
    ("access-control-allow-methods", "GET, POST, DELETE, OPTIONS")
  ]
  body := ""

/-- A value that may have been refused. -/
def ofResult {α : Type} (toJson : α → Json.Value) : Except Refusal α → Response
  | .ok value => ok (toJson value)
  | .error refusal => refused refusal

/-- The response as it is sent for a method: a request for headers alone gets no
body. -/
def sentFor (method : String) (response : Response) : Response :=
  if method = "HEAD" then { response with body := "" } else response

end Response

end OrderCustody.Gateway
