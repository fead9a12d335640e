import OrderCustody.Proofs.Desk.Transition
import OrderCustody.Proofs.History
import OrderCustody.Proofs.Trial

namespace OrderCustody.Desk

/-!
# Where signatures come from

Every signature is made with the key that the latest start of a session loaded,
while the lifetime of that session lasts and nothing has ended it.  The past is
kept turn by turn and cut at the start of the session that is held.
-/

/-- Whether an operation ends whatever session is held: a destruction, or the
start of another session with a key that was loaded. -/
def Operation.ends : Operation → Bool
  | .destroy => true
  | .activate _ (.ok _) _ => true
  | _ => false

/-- A turn that leaves the session in place. -/
structure Spares (turn : Turn) : Prop where
  notEnding : turn.input.ends = false
  stillHeld : turn.after.desk.keeper.held ≠ none

/-- The start of a session somewhere in the past, with nothing since then that
could have ended the session. -/
structure Origin (past : List Turn) where
  earlier : List Turn
  activation : Turn
  between : List Turn
  draw : Custody.Draw
  key : Bytes
  limit : Option Nat
  report : SessionReport
  split : past = earlier ++ activation :: between
  asked : activation.input = .activate draw (.ok key) limit
  answered : activation.output = .activated (.ok report)
  spared : ∀ turn ∈ between, Spares turn

namespace Origin

/-- The start of a session in the last turn. -/
def ofLast
    {past : List Turn}
    {activation : Turn}
    {draw : Custody.Draw}
    {key : Bytes}
    {limit : Option Nat}
    {report : SessionReport}
    (asked : activation.input = .activate draw (.ok key) limit)
    (answered : activation.output = .activated (.ok report)) :
    Origin (past ++ [activation]) where
  earlier := past
  activation := activation
  between := []
  draw := draw
  key := key
  limit := limit
  report := report
  split := rfl
  asked := asked
  answered := answered
  spared _ inBetween := by cases inBetween

/-- The same start of a session one turn later. -/
def later
    {past : List Turn}
    (origin : Origin past)
    {turn : Turn}
    (spares : Spares turn) :
    Origin (past ++ [turn]) :=
  { origin with
    between := origin.between ++ [turn]
    split :=
      calc
        past ++ [turn] =
            (origin.earlier ++ origin.activation :: origin.between) ++ [turn] :=
          congrArg (· ++ [turn]) origin.split
        _ = origin.earlier ++ origin.activation :: (origin.between ++ [turn]) :=
          List.append_assoc _ _ _
    spared := by
      intro member inBetween
      rcases List.mem_append.mp inBetween with before | last
      · exact origin.spared member before
      · cases List.mem_singleton.mp last
        exact spares }

/-- When the session was started. -/
def begunAt
    {past : List Turn}
    (origin : Origin past) :
    Nat :=
  origin.activation.before.clock.elapsed

/-- A session has its key, its address and its end from its start. -/
structure Explains
    {past : List Turn}
    (origin : Origin past)
    (moment : Moment)
    (session : Session) : Prop where
  begun : origin.begunAt ≤ moment.clock.elapsed
  expiry : session.expiresAt = origin.begunAt + moment.desk.keeper.lifetime
  derived : moment.desk.keeper.signer.address origin.key = .ok session.address
  reported : origin.report.sessionAddress = session.address
  sealing : Custody.SealedKey.ofMaterial origin.draw origin.key = .ok session.sealedKey

end Origin

/-- Whatever session is held was started in the past. -/
def Traced (past : List Turn) (moment : Moment) : Prop :=
  ∀ session,
    moment.desk.keeper.held = some session →
    ∃ origin : Origin past, origin.Explains moment session

namespace Traced

variable {past : List Turn}
variable {moment next : Moment}
variable {operation : Operation}
variable {outcome : Outcome}

/-- A turn that leaves no session leaves none to be traced. -/
theorem vacant
    (held : next.desk.keeper.held = none) :
    Traced past next := by
  intro session heldNext
  rw [held] at heldNext
  cases heldNext

/-- A turn that leaves the session in place, with more or less used, leaves its
origin in place. -/
theorem spared
    (traced : Traced past moment)
    (transition : Transition moment operation outcome next)
    (notEnding : operation.ends = false)
    (later : moment.clock.elapsed ≤ next.clock.elapsed)
    (kept :
      ∀ session,
        next.desk.keeper.held = some session →
        ∃ used, moment.desk.keeper.held = some { session with used }) :
    Traced (past ++ [⟨moment, operation, outcome, next⟩]) next := by
  intro session held
  obtain ⟨used, heldBefore⟩ := kept session held
  obtain ⟨origin, explains⟩ := traced _ heldBefore
  obtain ⟨_, sameSigner, sameLifetime⟩ := transition.configuration
  have spares : Spares ⟨moment, operation, outcome, next⟩ :=
    ⟨notEnding, by simp [held]⟩
  exact ⟨origin.later spares, {
    begun := Nat.le_trans explains.begun later
    expiry := by
      rw [sameLifetime]
      exact explains.expiry
    derived := by
      rw [sameSigner]
      exact explains.derived
    reported := explains.reported
    sealing := explains.sealing
  }⟩

/-- Every operation leaves a session whose origin is in the past. -/
theorem step
    (traced : Traced past moment)
    (transition : Transition moment operation outcome next) :
    Traced (past ++ [⟨moment, operation, outcome, next⟩]) next := by
  have kept :
      ∀ session,
        moment.desk.keeper.held = some session →
        ∃ used, moment.desk.keeper.held = some { session with used } :=
    fun session held => ⟨session.used, held⟩
  have whole := transition
  cases transition with
  | activate activating =>
      cases activating with
      | notLoaded => exact traced.spared whole rfl (Nat.le_refl _) kept
      | refused activating =>
          cases activating with
          | rejected => exact vacant rfl
          | notSealed => exact vacant rfl
      | activated activating =>
          cases activating with
          | started derived sealing fresh =>
              subst fresh
              intro session held
              cases held
              exact ⟨.ofLast rfl rfl, {
                begun := Nat.le_refl _
                expiry := rfl
                derived := derived
                reported := rfl
                sealing := sealing
              }⟩
  | sign signing =>
      cases signing with
      | malformed => exact traced.spared whole rfl (Nat.le_refl _) kept
      | refused checking signing =>
          cases signing with
          | vacant held => exact vacant held
          | expired => exact vacant rfl
          | overLimit => exact traced.spared whole rfl (Nat.le_refl _) kept
          | notRevealed => exact traced.spared whole rfl (Nat.le_refl _) kept
          | failed => exact traced.spared whole rfl (Nat.le_refl _) kept
      | signed checking signing =>
          cases signing with
          | signed held live within revealing signing =>
              refine traced.spared whole rfl (Nat.le_refl _) ?_
              intro session heldNext
              cases heldNext
              exact ⟨_, held⟩
  | status reporting =>
      cases reporting with
      | vacant held => exact vacant held
      | expired => exact vacant rfl
      | live => exact traced.spared whole rfl (Nat.le_refl _) kept
  | destroy destroying =>
      cases destroying with
      | vacant held => exact vacant held
      | expired => exact vacant rfl
      | live => exact vacant rfl
  | advance milliseconds =>
      exact traced.spared whole rfl (Nat.le_add_right _ _) kept

/-- In every history from a desk without a session, whatever session is held was
started in the past. -/
theorem run
    {start : Moment}
    (unheld : start.desk.keeper.held = none)
    (operations : List Operation) :
    Traced (turns start operations) (Desk.run start operations).2 := by
  have traced : Traced [] start := vacant unheld
  exact
    History.run_invariant Traced traced operations fun _ moment operation _ traced =>
      traced.step (step_cases moment operation)

end Traced

/--
Every signature comes from the session that was started last, and in time.

A request is answered with a signature only if some time before, but less than
the lifetime of a session before, a session was started, and nothing in between
destroyed it, tore it down or put a key that was loaded in its place.  The
signature is the signer's for the key that was loaded then and for the digest of
the order in the request; the address is that key's, and the one that was
reported then.  What the session has used grows by the order's maker amount.
-/
theorem signature_provenance
    {start : Moment}
    (unheld : start.desk.keeper.held = none)
    (past : List Operation)
    {request : SignRequest}
    {response : SignResponse}
    (answered :
      (step (run start past).2 (.sign request)).1 = .signed (.ok response)) :
    let signer := start.desk.keeper.signer
    let before := (run start past).2
    let after := (step before (.sign request)).2
    ∃ (origin : Origin (turns start past)) (orderRequest : OrderRequest)
      (order : Order) (digest : Digest) (signature : Signature) (session : Session),
      origin.begunAt ≤ before.clock.elapsed ∧
        before.clock.elapsed < origin.begunAt + start.desk.keeper.lifetime ∧
        request.order = some orderRequest ∧
        orderRequest.parse = .ok order ∧
        TypedData.digest start.desk.domain order = .ok digest ∧
        signer.sign origin.key digest = .ok signature ∧
        response.signature = signature.toHex ∧
        signer.address origin.key = .ok response.signerAddress ∧
        origin.report.sessionAddress = response.signerAddress ∧
        before.desk.keeper.held = some session ∧
        session.sealedKey.reveal = .ok origin.key ∧
        after.desk.keeper.held =
          some { session with used := session.used + order.makerAmount } := by
  intro signer before after
  have traced : Traced (turns start past) before := Traced.run unheld past
  obtain ⟨sameDomain, sameSigner, sameLifetime⟩ :
      before.desk.domain = start.desk.domain ∧
        before.desk.keeper.signer = signer ∧
        before.desk.keeper.lifetime = start.desk.keeper.lifetime :=
    configuration_run start past
  have transition := step_cases before (.sign request)
  change (step before (.sign request)).1 = _ at answered
  change Transition before (.sign request) _ after at transition
  rw [answered] at transition
  clear_value signer before after
  cases transition with
  | sign signing =>
      cases signing with
      | signed checking signing =>
          cases signing with
          | @signed session key signature held live within revealing signing =>
              obtain ⟨orderRequest, submitted, parsing, hashing⟩ :=
                checkOrder_eq_ok checking
              obtain ⟨origin, explains⟩ := traced session held
              have revealed : session.sealedKey.reveal = .ok origin.key :=
                Custody.SealedKey.reveal_ofMaterial explains.sealing
              cases revealing.symm.trans revealed
              have expiry := explains.expiry
              have derived := explains.derived
              rw [sameDomain] at hashing
              rw [sameSigner] at signing derived
              rw [sameLifetime] at expiry
              rw [expiry] at live
              exact ⟨origin, orderRequest, _, _, signature, session,
                explains.begun, live, submitted, parsing, hashing, signing, rfl,
                derived, explains.reported, held, revealed, rfl⟩

set_option maxRecDepth 10000 in
/-- An order is signed in the last millisecond of a session of one minute. -/
theorem signature_provenance_last_moment :
    let start : Moment := ⟨Trial.clock, Trial.desk⟩
    let past : List Operation := [
      .activate Trial.draw (.ok [1]) none,
      .advance 59999
    ]
    let response : SignResponse := ⟨Signature.toHex (.zero 65), "0x00"⟩
    (step (run start past).2 (.sign (Trial.request "40"))).1 =
        .signed (.ok response) ∧
      ∃ origin : Origin (turns start past),
        origin.begunAt ≤ 59999 ∧
          59999 < origin.begunAt + 60000 ∧
          Trial.signer.address origin.key = .ok response.signerAddress := by
  intro start past response
  have unheld : start.desk.keeper.held = none := rfl
  have answered :
      (step (run start past).2 (.sign (Trial.request "40"))).1 =
        .signed (.ok response) := by
    decide +kernel
  obtain ⟨origin, _, _, _, _, _, begun, inTime, _, _, _, _, _, derived, _⟩ :=
    signature_provenance unheld past answered
  exact ⟨answered, origin, begun, inTime, derived⟩

end OrderCustody.Desk
