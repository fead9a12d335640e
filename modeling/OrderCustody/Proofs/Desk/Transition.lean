import OrderCustody.Desk.History
import OrderCustody.Proofs.Session.Transition

namespace OrderCustody.Desk

/-!
# Transitions of a desk

For each operation of the desk, everything it can come to.  What the keeper behind
the desk does is described by the transitions of the keeper.
-/

/-- What checking an order has to find before the session is asked. -/
theorem checkOrder_eq_ok
    {domain : TypedData.Domain}
    {request : SignRequest}
    {order : Order}
    {digest : Digest}
    (checking : checkOrder domain request = .ok (order, digest)) :
    ∃ orderRequest,
      request.order = some orderRequest ∧
        orderRequest.parse = .ok order ∧
        TypedData.digest domain order = .ok digest := by
  unfold checkOrder at checking
  cases submitted : request.order with
  | none =>
      simp only [submitted] at checking
      cases checking
  | some orderRequest =>
      cases parsing : orderRequest.parse with
      | error fault =>
          simp only [submitted, parsing] at checking
          cases checking
      | ok parsed =>
          cases hashing : TypedData.digest domain parsed with
          | error fault =>
              simp only [submitted, parsing, hashing] at checking
              cases checking
          | ok hashed =>
              simp only [submitted, parsing, hashing] at checking
              cases checking
              exact ⟨orderRequest, rfl, parsing, hashing⟩

/-- What a request to sign can come to. -/
inductive Signing
    (desk : Desk)
    (clock : Clock)
    (request : SignRequest) :
    Except Refusal SignResponse → Desk → Prop where
  | malformed
      {refusal : Refusal}
      (checking : checkOrder desk.domain request = .error refusal) :
      Signing desk clock request (.error refusal) desk
  | refused
      {order : Order}
      {digest : Digest}
      {fault : SessionFault}
      {next : Keeper}
      (checking : checkOrder desk.domain request = .ok (order, digest))
      (signing :
        Keeper.Signing desk.keeper clock.elapsed order.makerAmount digest
          (.error fault) next) :
      Signing desk clock request (.error (.ofSessionFault fault))
        ({ desk with keeper := next }.record clock (refusedEntry order fault))
  | signed
      {order : Order}
      {digest : Digest}
      {signed : SessionSignature}
      {next : Keeper}
      (checking : checkOrder desk.domain request = .ok (order, digest))
      (signing :
        Keeper.Signing desk.keeper clock.elapsed order.makerAmount digest
          (.ok signed) next) :
      Signing desk clock request
        (.ok {
          signature := signed.signature.toHex
          signerAddress := signed.address
        })
        ({ desk with keeper := next }.record clock (signedEntry order signed))

theorem signOrder_cases
    {desk next : Desk}
    {clock : Clock}
    {request : SignRequest}
    {result : Except Refusal SignResponse}
    (taken : desk.signOrder clock request = (result, next)) :
    Signing desk clock request result next := by
  unfold signOrder at taken
  cases checking : checkOrder desk.domain request with
  | error refusal =>
      simp only [checking] at taken
      cases taken
      exact .malformed checking
  | ok checked =>
      obtain ⟨order, digest⟩ := checked
      cases signing :
          desk.keeper.sign clock.elapsed order.makerAmount digest with
      | mk answer keeper =>
          cases answer with
          | error fault =>
              simp only [checking, signing] at taken
              cases taken
              exact .refused checking (Keeper.sign_cases signing)
          | ok signed =>
              simp only [checking, signing] at taken
              cases taken
              exact .signed checking (Keeper.sign_cases signing)

/-- What reporting the session can come to. -/
inductive Reporting (desk : Desk) (clock : Clock) : SessionReport → Desk → Prop where
  | vacant
      (held : desk.keeper.held = none) :
      Reporting desk clock (.ofStatus .inactive) desk
  | expired
      {session : Session}
      (held : desk.keeper.held = some session)
      (late : session.expiresAt ≤ clock.elapsed) :
      Reporting desk clock (.ofStatus .inactive)
        ({ desk with keeper := desk.keeper.cleared }.record clock {
          kind := .sessionExpired
          reason := some "status_check"
        })
  | live
      {session : Session}
      (held : desk.keeper.held = some session)
      (live : clock.elapsed < session.expiresAt) :
      Reporting desk clock (.ofStatus (session.status clock.elapsed)) desk

theorem sessionStatus_cases
    {desk next : Desk}
    {clock : Clock}
    {report : SessionReport}
    (taken : desk.sessionStatus clock = (report, next)) :
    Reporting desk clock report next := by
  unfold sessionStatus at taken
  rcases observed : desk.keeper.observe clock.elapsed with ⟨⟨status, tornDown⟩, keeper⟩
  simp only [observed] at taken
  cases Keeper.observe_cases observed with
  | vacant held =>
      cases taken
      exact .vacant held
  | expired held late =>
      cases taken
      exact .expired held late
  | live held live =>
      cases taken
      exact .live held live

/-- What starting a session can come to. -/
inductive Activating
    (desk : Desk)
    (clock : Clock)
    (draw : Custody.Draw)
    (limit : Option Nat) :
    Except KeySource.Fault Bytes → Except Refusal SessionReport → Desk → Prop where
  | notLoaded
      {fault : KeySource.Fault} :
      Activating desk clock draw limit (.error fault) (.error (.ofKeyFault fault)) desk
  | refused
      {key : Bytes}
      {fault : SessionFault}
      {next : Keeper}
      (activating :
        Keeper.Activating desk.keeper clock.elapsed draw key
          (limit.getD desk.defaultLimit) (.error fault) next) :
      Activating desk clock draw limit (.ok key) (.error (.ofSessionFault fault))
        { desk with keeper := next }
  | activated
      {key : Bytes}
      {status : SessionStatus}
      {next : Keeper}
      (activating :
        Keeper.Activating desk.keeper clock.elapsed draw key
          (limit.getD desk.defaultLimit) (.ok status) next) :
      Activating desk clock draw limit (.ok key) (.ok (.ofStatus status))
        ({ desk with keeper := next }.record clock {
          kind := .sessionActivated
          address := some status.address
          maxValueLimit := some (Decimal.text (limit.getD desk.defaultLimit))
        })

theorem activateFrom_cases
    {desk next : Desk}
    {clock : Clock}
    {draw : Custody.Draw}
    {loaded : Except KeySource.Fault Bytes}
    {limit : Option Nat}
    {result : Except Refusal SessionReport}
    (taken : desk.activateFrom clock draw loaded limit = (result, next)) :
    Activating desk clock draw limit loaded result next := by
  unfold activateFrom at taken
  cases loaded with
  | error fault =>
      cases taken
      exact .notLoaded
  | ok key =>
      cases activating :
          desk.keeper.activate clock.elapsed draw key
            (limit.getD desk.defaultLimit) with
      | mk answer keeper =>
          cases answer with
          | error fault =>
              simp only [activating] at taken
              cases taken
              exact .refused (Keeper.activate_cases activating)
          | ok status =>
              simp only [activating] at taken
              cases taken
              exact .activated (Keeper.activate_cases activating)

/-- What tearing the session down can come to. -/
inductive Destroying (desk : Desk) (clock : Clock) : Teardown → Desk → Prop where
  | vacant
      (held : desk.keeper.held = none) :
      Destroying desk clock .empty desk
  | expired
      {session : Session}
      (held : desk.keeper.held = some session)
      (late : session.expiresAt ≤ clock.elapsed) :
      Destroying desk clock .expired
        ({ desk with keeper := desk.keeper.cleared }.record clock
          { kind := .sessionExpired })
  | live
      {session : Session}
      (held : desk.keeper.held = some session)
      (live : clock.elapsed < session.expiresAt) :
      Destroying desk clock .destroyed
        ({ desk with keeper := desk.keeper.cleared }.record clock
          { kind := .sessionDestroyed })

theorem destroy_cases
    {desk next : Desk}
    {clock : Clock}
    {found : Teardown}
    (taken : desk.destroy clock = (found, next)) :
    Destroying desk clock found next := by
  unfold destroy at taken
  rcases destroyed : desk.keeper.destroy clock.elapsed with ⟨answer, keeper⟩
  simp only [destroyed] at taken
  cases Keeper.destroy_cases destroyed with
  | vacant held =>
      cases taken
      exact .vacant held
  | expired held late =>
      cases taken
      exact .expired held late
  | live held live =>
      cases taken
      exact .live held live

/-- What one operation of a history can come to. -/
inductive Transition (moment : Moment) : Operation → Outcome → Moment → Prop where
  | activate
      {draw : Custody.Draw}
      {loaded : Except KeySource.Fault Bytes}
      {limit : Option Nat}
      {result : Except Refusal SessionReport}
      {next : Desk}
      (activating :
        Activating moment.desk moment.clock draw limit loaded result next) :
      Transition moment (.activate draw loaded limit) (.activated result)
        { moment with desk := next }
  | sign
      {request : SignRequest}
      {result : Except Refusal SignResponse}
      {next : Desk}
      (signing : Signing moment.desk moment.clock request result next) :
      Transition moment (.sign request) (.signed result) { moment with desk := next }
  | status
      {report : SessionReport}
      {next : Desk}
      (reporting : Reporting moment.desk moment.clock report next) :
      Transition moment .status (.reported report) { moment with desk := next }
  | destroy
      {found : Teardown}
      {next : Desk}
      (destroying : Destroying moment.desk moment.clock found next) :
      Transition moment .destroy (.destroyed found) { moment with desk := next }
  | advance
      (milliseconds : Nat) :
      Transition moment (.advance milliseconds) .advanced
        { moment with clock := moment.clock.advance milliseconds }

theorem step_cases (moment : Moment) (operation : Operation) :
    Transition moment operation (step moment operation).1 (step moment operation).2 := by
  cases operation with
  | activate draw loaded limit => exact .activate (activateFrom_cases rfl)
  | sign request => exact .sign (signOrder_cases rfl)
  | status => exact .status (sessionStatus_cases rfl)
  | destroy => exact .destroy (destroy_cases rfl)
  | advance milliseconds => exact .advance milliseconds

/-- No operation changes how the desk is set up. -/
theorem Transition.configuration
    {moment next : Moment}
    {operation : Operation}
    {outcome : Outcome}
    (transition : Transition moment operation outcome next) :
    next.desk.domain = moment.desk.domain ∧
      next.desk.keeper.signer = moment.desk.keeper.signer ∧
      next.desk.keeper.lifetime = moment.desk.keeper.lifetime := by
  cases transition with
  | activate activating =>
      cases activating with
      | notLoaded => exact ⟨rfl, rfl, rfl⟩
      | refused activating => cases activating <;> exact ⟨rfl, rfl, rfl⟩
      | activated activating =>
          cases activating with
          | started => exact ⟨rfl, rfl, rfl⟩
  | sign signing =>
      cases signing with
      | malformed => exact ⟨rfl, rfl, rfl⟩
      | refused checking signing => cases signing <;> exact ⟨rfl, rfl, rfl⟩
      | signed checking signing =>
          cases signing with
          | signed => exact ⟨rfl, rfl, rfl⟩
  | status reporting => cases reporting <;> exact ⟨rfl, rfl, rfl⟩
  | destroy destroying => cases destroying <;> exact ⟨rfl, rfl, rfl⟩
  | advance => exact ⟨rfl, rfl, rfl⟩

/-- No history changes how the desk is set up. -/
theorem configuration_run (start : Moment) (operations : List Operation) :
    (run start operations).2.desk.domain = start.desk.domain ∧
      (run start operations).2.desk.keeper.signer = start.desk.keeper.signer ∧
      (run start operations).2.desk.keeper.lifetime = start.desk.keeper.lifetime := by
  have configured := fun moment operation =>
    (step_cases moment operation).configuration
  refine ⟨?_, ?_, ?_⟩
  · exact
      History.run_keeps (·.desk.domain)
        (fun moment operation => (configured moment operation).1) start operations
  · exact
      History.run_keeps (·.desk.keeper.signer)
        (fun moment operation => (configured moment operation).2.1) start operations
  · exact
      History.run_keeps (·.desk.keeper.lifetime)
        (fun moment operation => (configured moment operation).2.2) start operations

/-- Every turn of a history is one of these cases. -/
theorem transition_of_mem_turns
    {start : Moment}
    {operations : List Operation}
    {turn : Turn}
    (member : turn ∈ turns start operations) :
    Transition turn.before turn.input turn.output turn.after := by
  obtain ⟨first, operation, rfl⟩ := History.exists_of_mem_turns member
  exact step_cases (run start first).2 operation

end OrderCustody.Desk
