import OrderCustody.Desk.Basic
import OrderCustody.Gateway.Activation
import OrderCustody.Gateway.Admin
import OrderCustody.Gateway.Report
import OrderCustody.Gateway.Response
import OrderCustody.Settings.Basic

namespace OrderCustody

/-!
# The gateway

The gateway answers requests for the desk behind it.  Anyone may ask for the
state of the session and for signatures; starting and ending a session takes
the administrator's key.  When the gateway shuts down the session ends.
-/

/-- A desk with what the gateway needs to serve it. -/
structure Gateway where
  adminKey : Option String
  keySource : Option KeySource
  /-- When the gateway started, in milliseconds. -/
  started : Nat
  desk : Desk

namespace Gateway

/-- What a request meets when it arrives: the time, the files as they are, and
fresh random bytes. -/
structure Surroundings where
  clock : Clock
  files : Files
  draw : Custody.Draw

/-- What a request asks for. -/
inductive Route where
  | preflight
  | health
  | version
  | status
  | sign
  | activate
  | destroy
  /-- Nothing is there. -/
  | unknown (path : String)
  deriving DecidableEq, Repr

/-- The route that a method and a path ask for. -/
def Route.of (method path : String) : Route :=
  if method = "OPTIONS" then .preflight
  else if method = "GET" ∧ path = "/health" then .health
  else if method = "GET" ∧ path = "/version" then .version
  else if method = "GET" ∧ path = "/v1/session" then .status
  else if method = "POST" ∧ path = "/v1/orders/sign" then .sign
  else if method = "POST" ∧ path = "/v1/session/activate" then .activate
  else if method = "DELETE" ∧ path = "/v1/session" then .destroy
  else .unknown path

/-- Whether sessions can be administered: only with a key that is not empty. -/
def adminEnabled (gateway : Gateway) : Bool :=
  match gateway.adminKey with
  | some key => !key.isEmpty
  | none => false

/-- A sign of life; an expired session stays as it is. -/
def health (gateway : Gateway) (clock : Clock) : Health where
  uptime := (clock.elapsed - gateway.started) / 1000
  sessionActive := gateway.desk.keeper.isActive clock.elapsed
  keySourceConfigured := gateway.keySource.isSome
  adminEnabled := gateway.adminEnabled
  timestamp := clock.calendar

/-- Sign the order that a request holds.  A body that cannot be read or is no request to
sign never gets to the desk. -/
def sign (gateway : Gateway) (clock : Clock) (request : Request) :
    Except Refusal SignResponse × Gateway :=
  match request.readBody with
  | .error refusal => (.error refusal, gateway)
  | .ok body =>
      match SignRequest.ofJson body with
      | .error cause => (.error (.ofJsonCause cause), gateway)
      | .ok signRequest =>
          let (result, desk) := gateway.desk.signOrder clock signRequest
          (result, { gateway with desk })

/-- What a request to activate asks for, if the administrator makes it and a
key source is configured. -/
def admitActivation (gateway : Gateway) (request : Request) :
    Except Refusal (KeySource × Option Nat) := do
  let body ← request.readBody
  authorize gateway.adminKey request
  let limit ← ActivationRequest.limitOfBody body
  match gateway.keySource with
  | some source => return (source, limit)
  | none => throw (.config "no key source configured")

/-- Load the key anew and start a session with it. -/
def activate (gateway : Gateway) (around : Surroundings) (request : Request) :
    Except Refusal SessionReport × Gateway :=
  match gateway.admitActivation request with
  | .error refusal => (.error refusal, gateway)
  | .ok (source, limit) =>
      let (result, desk) := gateway.desk.activateFrom around.clock around.draw
        (source.load around.files) limit
      (result, { gateway with desk })

/-- Discard the session, if the administrator asks for it, and report that there is
none. -/
def destroy (gateway : Gateway) (clock : Clock) (request : Request) :
    Except Refusal SessionReport × Gateway :=
  match authorize gateway.adminKey request with
  | .error refusal => (.error refusal, gateway)
  | .ok () =>
      let (report, desk) := (gateway.desk.destroy clock).2.sessionStatus clock
      (.ok report, { gateway with desk })

/-- The answer to a request, and the gateway behind it. -/
def handle (gateway : Gateway) (around : Surroundings) (request : Request) :
    Response × Gateway :=
  match Route.of request.method request.path with
  | .preflight => (.preflight, gateway)
  | .health => (.ok (gateway.health around.clock).toJson, gateway)
  | .version => (.ok versionReport, gateway)
  | .status =>
      let (report, desk) := gateway.desk.sessionStatus around.clock
      (.ok report.toJson, { gateway with desk })
  | .sign =>
      let (result, next) := gateway.sign around.clock request
      (.ofResult SignResponse.toJson result, next)
  | .activate =>
      let (result, next) := gateway.activate around request
      (.ofResult SessionReport.toJson result, next)
  | .destroy =>
      let (result, next) := gateway.destroy around.clock request
      (.ofResult SessionReport.toJson result, next)
  | .unknown path => (.refused (.notFound path), gateway)

/-- End the session because the gateway stops. -/
def shutDown (gateway : Gateway) (clock : Clock) : Gateway :=
  { gateway with desk := (gateway.desk.destroy clock).2 }

end Gateway

end OrderCustody
