import Mathlib.Tactic.SplitIfs
import OrderCustody.Gateway.History
import OrderCustody.Proofs.Desk.Transition
import OrderCustody.Proofs.Order.Bounded

namespace OrderCustody.Gateway

/-!
# Transitions of a gateway

Everything a request can come to, route by route: with which answer, and in which
gateway.  What the desk behind the gateway does is described by the transitions of
the desk.
-/

/-- Signing is asked for by one method at one path. -/
theorem Route.of_eq_sign_iff (method path : String) :
    Route.of method path = .sign ↔ method = "POST" ∧ path = "/v1/orders/sign" := by
  constructor
  · intro routed
    unfold Route.of at routed
    split_ifs at routed with _ _ _ _ asked
    exact asked
  · rintro ⟨rfl, rfl⟩
    rfl

/-- No refusal has the status of a success. -/
theorem Response.status_refused_ne (refusal : Refusal) :
    (Response.refused refusal).status ≠ 200 := by
  cases refusal <;> exact nofun

/-- A body is read exactly if it can be, and then as a whole. -/
theorem Request.readBody_eq_ok_iff (request : Request) (body : Bytes) :
    request.readBody = .ok body ↔ request.Readable ∧ body = request.body := by
  unfold readBody
  split
  · next readable =>
      constructor
      · rintro ⟨⟩
        exact ⟨readable, rfl⟩
      · rintro ⟨-, rfl⟩
        rfl
  · next unreadable =>
      constructor
      · exact nofun
      · rintro ⟨readable, -⟩
        exact absurd readable unreadable

/-- A body that is read is the whole body. -/
theorem Request.readBody_eq_ok
    {request : Request}
    {body : Bytes}
    (reading : request.readBody = .ok body) :
    body = request.body :=
  ((readBody_eq_ok_iff request body).mp reading).2

/-- A body that can be read is read. -/
theorem Request.readBody_of_readable
    {request : Request}
    (readable : request.Readable) :
    request.readBody = .ok request.body :=
  (readBody_eq_ok_iff request _).mpr ⟨readable, rfl⟩

/-- Who is admitted to start a session is authorized. -/
theorem authorize_of_admitActivation
    {gateway : Gateway}
    {request : Request}
    {source : KeySource}
    {limit : Option Nat}
    (admitted : gateway.admitActivation request = .ok (source, limit)) :
    authorize gateway.adminKey request = .ok () := by
  obtain ⟨_, _, afterBody⟩ := bind_eq_ok admitted
  obtain ⟨_, authorized, _⟩ := bind_eq_ok afterBody
  exact authorized

/-- What a request can come to. -/
inductive Answering
    (gateway : Gateway)
    (around : Surroundings)
    (request : Request) :
    Response → Gateway → Prop where
  | preflight
      (routed : Route.of request.method request.path = .preflight) :
      Answering gateway around request .preflight gateway
  | health
      (routed : Route.of request.method request.path = .health) :
      Answering gateway around request
        (.ok (gateway.health around.clock).toJson) gateway
  | version
      (routed : Route.of request.method request.path = .version) :
      Answering gateway around request (.ok versionReport) gateway
  | status
      {report : SessionReport}
      {next : Desk}
      (routed : Route.of request.method request.path = .status)
      (reporting : Desk.Reporting gateway.desk around.clock report next) :
      Answering gateway around request (.ok report.toJson)
        { gateway with desk := next }
  | unreadable
      {refusal : Refusal}
      (routed : Route.of request.method request.path = .sign)
      (reading : request.readBody = .error refusal) :
      Answering gateway around request (.refused refusal) gateway
  | unparsed
      {body : Bytes}
      {cause : Json.Cause}
      (routed : Route.of request.method request.path = .sign)
      (reading : request.readBody = .ok body)
      (parsing : SignRequest.ofJson body = .error cause) :
      Answering gateway around request (.refused (.ofJsonCause cause)) gateway
  | sign
      {body : Bytes}
      {signRequest : SignRequest}
      {result : Except Refusal SignResponse}
      {next : Desk}
      (routed : Route.of request.method request.path = .sign)
      (reading : request.readBody = .ok body)
      (parsing : SignRequest.ofJson body = .ok signRequest)
      (signing : Desk.Signing gateway.desk around.clock signRequest result next) :
      Answering gateway around request (.ofResult SignResponse.toJson result)
        { gateway with desk := next }
  | notAdmitted
      {refusal : Refusal}
      (routed : Route.of request.method request.path = .activate)
      (admission : gateway.admitActivation request = .error refusal) :
      Answering gateway around request (.refused refusal) gateway
  | activate
      {source : KeySource}
      {limit : Option Nat}
      {result : Except Refusal SessionReport}
      {next : Desk}
      (routed : Route.of request.method request.path = .activate)
      (admission : gateway.admitActivation request = .ok (source, limit))
      (activating :
        Desk.Activating gateway.desk around.clock around.draw limit
          (source.load around.files) result next) :
      Answering gateway around request (.ofResult SessionReport.toJson result)
        { gateway with desk := next }
  | notAuthorized
      {refusal : Refusal}
      (routed : Route.of request.method request.path = .destroy)
      (authorizing : authorize gateway.adminKey request = .error refusal) :
      Answering gateway around request (.refused refusal) gateway
  | destroy
      {found : Teardown}
      {torn next : Desk}
      {report : SessionReport}
      (routed : Route.of request.method request.path = .destroy)
      (authorizing : authorize gateway.adminKey request = .ok ())
      (destroying : Desk.Destroying gateway.desk around.clock found torn)
      (reporting : Desk.Reporting torn around.clock report next) :
      Answering gateway around request (.ok report.toJson)
        { gateway with desk := next }
  | unknown
      {path : String}
      (routed : Route.of request.method request.path = .unknown path) :
      Answering gateway around request (.refused (.notFound path)) gateway

theorem handle_cases
    {gateway next : Gateway}
    {around : Surroundings}
    {request : Request}
    {response : Response}
    (taken : gateway.handle around request = (response, next)) :
    Answering gateway around request response next := by
  unfold handle at taken
  cases routed : Route.of request.method request.path with
  | preflight =>
      simp only [routed] at taken
      cases taken
      exact .preflight routed
  | health =>
      simp only [routed] at taken
      cases taken
      exact .health routed
  | version =>
      simp only [routed] at taken
      cases taken
      exact .version routed
  | status =>
      simp only [routed] at taken
      cases taken
      exact .status routed (Desk.sessionStatus_cases rfl)
  | sign =>
      simp only [routed, sign] at taken
      cases reading : request.readBody with
      | error refusal =>
          simp only [reading] at taken
          cases taken
          exact .unreadable routed reading
      | ok body =>
          cases parsing : SignRequest.ofJson body with
          | error cause =>
              simp only [reading, parsing] at taken
              cases taken
              exact .unparsed routed reading parsing
          | ok signRequest =>
              simp only [reading, parsing] at taken
              cases taken
              exact .sign routed reading parsing (Desk.signOrder_cases rfl)
  | activate =>
      simp only [routed, activate] at taken
      cases admission : gateway.admitActivation request with
      | error refusal =>
          simp only [admission] at taken
          cases taken
          exact .notAdmitted routed admission
      | ok admitted =>
          obtain ⟨source, limit⟩ := admitted
          simp only [admission] at taken
          cases taken
          exact .activate routed admission (Desk.activateFrom_cases rfl)
  | destroy =>
      simp only [routed, destroy] at taken
      cases authorizing : authorize gateway.adminKey request with
      | error refusal =>
          simp only [authorizing] at taken
          cases taken
          exact .notAuthorized routed authorizing
      | ok _ =>
          simp only [authorizing] at taken
          cases taken
          exact .destroy routed authorizing (Desk.destroy_cases rfl)
            (Desk.sessionStatus_cases rfl)
  | unknown path =>
      simp only [routed] at taken
      cases taken
      exact .unknown routed

/-- What one happening of a history can come to. -/
inductive Transition (moment : Moment) :
    Happening → Option Response → Moment → Prop where
  | request
      {draw : Custody.Draw}
      {request : Request}
      {response : Response}
      {next : Gateway}
      (answering :
        Answering moment.gateway ⟨moment.clock, moment.files, draw⟩ request
          response next) :
      Transition moment (.request draw request) (some response)
        { moment with gateway := next }
  | advance
      (milliseconds : Nat) :
      Transition moment (.advance milliseconds) none
        { moment with clock := moment.clock.advance milliseconds }
  | files
      (files : Files) :
      Transition moment (.files files) none { moment with files }

theorem step_cases (moment : Moment) (happening : Happening) :
    Transition moment happening (step moment happening).1 (step moment happening).2 := by
  cases happening with
  | request draw request => exact .request (handle_cases rfl)
  | advance milliseconds => exact .advance milliseconds
  | files files => exact .files files

/-- Nothing that happens changes how the gateway is set up. -/
theorem Transition.configuration
    {moment next : Moment}
    {happening : Happening}
    {output : Option Response}
    (transition : Transition moment happening output next) :
    next.gateway.adminKey = moment.gateway.adminKey ∧
      next.gateway.keySource = moment.gateway.keySource ∧
      next.gateway.started = moment.gateway.started := by
  cases transition with
  | request answering => cases answering <;> exact ⟨rfl, rfl, rfl⟩
  | advance => exact ⟨rfl, rfl, rfl⟩
  | files => exact ⟨rfl, rfl, rfl⟩

/-- Time never goes back. -/
theorem Transition.elapsed_le
    {moment next : Moment}
    {happening : Happening}
    {output : Option Response}
    (transition : Transition moment happening output next) :
    moment.clock.elapsed ≤ next.clock.elapsed := by
  cases transition with
  | request => exact Nat.le_refl _
  | advance => exact Nat.le_add_right _ _
  | files => exact Nat.le_refl _

end OrderCustody.Gateway
