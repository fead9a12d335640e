import OrderCustody.Proofs.History
import OrderCustody.Session.History

namespace OrderCustody.Keeper

/-!
# Transitions of a keeper

For each operation, everything it can come to: under which circumstances, with
which result, and in which keeper.  Invariants of a keeper are proved by going
through these cases, and none of them opens an operation again.
-/

/-- What starting a session can come to. -/
inductive Activating
    (keeper : Keeper)
    (now : Nat)
    (draw : Custody.Draw)
    (key : Bytes)
    (limit : Nat) :
    Except SessionFault SessionStatus → Keeper → Prop where
  | rejected
      {fault : SigningFault}
      (derived : keeper.signer.address key = .error fault) :
      Activating keeper now draw key limit
        (.error (.invalidKey fault)) keeper.cleared
  | notSealed
      {address : String}
      {fault : Custody.Fault}
      (derived : keeper.signer.address key = .ok address)
      (sealing : Custody.SealedKey.ofMaterial draw key = .error fault) :
      Activating keeper now draw key limit
        (.error (.custody fault)) keeper.cleared
  | started
      {address : String}
      {sealedKey : Custody.SealedKey}
      {session : Session}
      (derived : keeper.signer.address key = .ok address)
      (sealing : Custody.SealedKey.ofMaterial draw key = .ok sealedKey)
      (fresh :
        session = {
          sealedKey
          address
          expiresAt := now + keeper.lifetime
          limit
          used := 0
        }) :
      Activating keeper now draw key limit
        (.ok (session.status now)) { keeper with held := some session }

theorem activate_cases
    {keeper next : Keeper}
    {now limit : Nat}
    {draw : Custody.Draw}
    {key : Bytes}
    {result : Except SessionFault SessionStatus}
    (taken : keeper.activate now draw key limit = (result, next)) :
    Activating keeper now draw key limit result next := by
  unfold activate at taken
  cases derived : keeper.signer.address key with
  | error fault =>
      simp only [derived] at taken
      cases taken
      exact .rejected derived
  | ok address =>
      cases sealing : Custody.SealedKey.ofMaterial draw key with
      | error fault =>
          simp only [derived, sealing] at taken
          cases taken
          exact .notSealed derived sealing
      | ok sealedKey =>
          simp only [derived, sealing] at taken
          cases taken
          exact .started derived sealing rfl

/-- What signing can come to. -/
inductive Signing
    (keeper : Keeper)
    (now value : Nat)
    (digest : Digest) :
    Except SessionFault SessionSignature → Keeper → Prop where
  | vacant
      (held : keeper.held = none) :
      Signing keeper now value digest (.error .noActiveSession) keeper
  | expired
      {session : Session}
      (held : keeper.held = some session)
      (late : session.expiresAt ≤ now) :
      Signing keeper now value digest (.error .sessionExpired) keeper.cleared
  | overLimit
      {session : Session}
      (held : keeper.held = some session)
      (live : now < session.expiresAt)
      (excess : session.limit < session.used + value) :
      Signing keeper now value digest
        (.error (.valueLimitExceeded value session.budget)) keeper
  | notRevealed
      {session : Session}
      {fault : Custody.Fault}
      (held : keeper.held = some session)
      (live : now < session.expiresAt)
      (within : session.used + value ≤ session.limit)
      (revealing : session.sealedKey.reveal = .error fault) :
      Signing keeper now value digest (.error (.custody fault)) keeper
  | failed
      {session : Session}
      {key : Bytes}
      {fault : SigningFault}
      (held : keeper.held = some session)
      (live : now < session.expiresAt)
      (within : session.used + value ≤ session.limit)
      (revealing : session.sealedKey.reveal = .ok key)
      (signing : keeper.signer.sign key digest = .error fault) :
      Signing keeper now value digest (.error (.signingFailure fault)) keeper
  | signed
      {session : Session}
      {key : Bytes}
      {signature : Signature}
      (held : keeper.held = some session)
      (live : now < session.expiresAt)
      (within : session.used + value ≤ session.limit)
      (revealing : session.sealedKey.reveal = .ok key)
      (signing : keeper.signer.sign key digest = .ok signature) :
      Signing keeper now value digest
        (.ok {
          signature
          address := session.address
          used := session.used + value
        })
        { keeper with held := some { session with used := session.used + value } }

theorem sign_cases
    {keeper next : Keeper}
    {now value : Nat}
    {digest : Digest}
    {result : Except SessionFault SessionSignature}
    (taken : keeper.sign now value digest = (result, next)) :
    Signing keeper now value digest result next := by
  unfold sign at taken
  cases held : keeper.held with
  | none =>
      simp only [held] at taken
      cases taken
      exact .vacant held
  | some session =>
      by_cases late : session.expiresAt ≤ now
      · simp only [held, Session.isExpired, late, decide_true, ↓reduceIte] at taken
        cases taken
        exact .expired held late
      by_cases excess : session.limit < session.used + value
      · simp only [held, Session.isExpired, late, excess, decide_false,
          Bool.false_eq_true, ↓reduceIte] at taken
        cases taken
        exact .overLimit held (Nat.lt_of_not_le late) excess
      simp only [held, Session.isExpired, late, excess, decide_false,
        Bool.false_eq_true, ↓reduceIte] at taken
      have live : now < session.expiresAt := Nat.lt_of_not_le late
      have within : session.used + value ≤ session.limit := Nat.le_of_not_lt excess
      cases revealing : session.sealedKey.reveal with
      | error fault =>
          simp only [revealing] at taken
          cases taken
          exact .notRevealed held live within revealing
      | ok key =>
          cases signing : keeper.signer.sign key digest with
          | error fault =>
              simp only [revealing, signing] at taken
              cases taken
              exact .failed held live within revealing signing
          | ok signature =>
              simp only [revealing, signing] at taken
              cases taken
              exact .signed held live within revealing signing

/-- What reporting the session can come to. -/
inductive Observing (keeper : Keeper) (now : Nat) :
    SessionStatus → Bool → Keeper → Prop where
  | vacant
      (held : keeper.held = none) :
      Observing keeper now .inactive false keeper
  | expired
      {session : Session}
      (held : keeper.held = some session)
      (late : session.expiresAt ≤ now) :
      Observing keeper now .inactive true keeper.cleared
  | live
      {session : Session}
      (held : keeper.held = some session)
      (live : now < session.expiresAt) :
      Observing keeper now (session.status now) false keeper

theorem observe_cases
    {keeper next : Keeper}
    {now : Nat}
    {status : SessionStatus}
    {tornDown : Bool}
    (taken : keeper.observe now = ((status, tornDown), next)) :
    Observing keeper now status tornDown next := by
  unfold observe at taken
  cases held : keeper.held with
  | none =>
      simp only [held] at taken
      cases taken
      exact .vacant held
  | some session =>
      by_cases late : session.expiresAt ≤ now
      · simp only [held, Session.isExpired, late, decide_true, ↓reduceIte] at taken
        cases taken
        exact .expired held late
      · simp only [held, Session.isExpired, late, decide_false,
          Bool.false_eq_true, ↓reduceIte] at taken
        cases taken
        exact .live held (Nat.lt_of_not_le late)

/-- What destroying the session can come to. -/
inductive Destroying (keeper : Keeper) (now : Nat) : Teardown → Keeper → Prop where
  | vacant
      (held : keeper.held = none) :
      Destroying keeper now .empty keeper
  | expired
      {session : Session}
      (held : keeper.held = some session)
      (late : session.expiresAt ≤ now) :
      Destroying keeper now .expired keeper.cleared
  | live
      {session : Session}
      (held : keeper.held = some session)
      (live : now < session.expiresAt) :
      Destroying keeper now .destroyed keeper.cleared

theorem destroy_cases
    {keeper next : Keeper}
    {now : Nat}
    {found : Teardown}
    (taken : keeper.destroy now = (found, next)) :
    Destroying keeper now found next := by
  unfold destroy at taken
  cases held : keeper.held with
  | none =>
      simp only [held] at taken
      cases taken
      exact .vacant held
  | some session =>
      by_cases late : session.expiresAt ≤ now
      · simp only [held, Session.isExpired, late, decide_true, ↓reduceIte] at taken
        cases taken
        exact .expired held late
      · simp only [held, Session.isExpired, late, decide_false,
          Bool.false_eq_true, ↓reduceIte] at taken
        cases taken
        exact .live held (Nat.lt_of_not_le late)

/-- What one operation of a history can come to. -/
inductive Transition (moment : Moment) : Operation → Outcome → Moment → Prop where
  | activate
      {draw : Custody.Draw}
      {key : Bytes}
      {limit : Nat}
      {result : Except SessionFault SessionStatus}
      {next : Keeper}
      (activating :
        Activating moment.keeper moment.now draw key limit result next) :
      Transition moment (.activate draw key limit) (.activated result)
        { moment with keeper := next }
  | sign
      {value : Nat}
      {digest : Digest}
      {result : Except SessionFault SessionSignature}
      {next : Keeper}
      (signing : Signing moment.keeper moment.now value digest result next) :
      Transition moment (.sign value digest) (.signed result)
        { moment with keeper := next }
  | observe
      {status : SessionStatus}
      {tornDown : Bool}
      {next : Keeper}
      (observing : Observing moment.keeper moment.now status tornDown next) :
      Transition moment .observe (.observed status tornDown)
        { moment with keeper := next }
  | isActive :
      Transition moment .isActive
        (.active (moment.keeper.isActive moment.now)) moment
  | destroy
      {found : Teardown}
      {next : Keeper}
      (destroying : Destroying moment.keeper moment.now found next) :
      Transition moment .destroy (.destroyed found) { moment with keeper := next }
  | advance
      (milliseconds : Nat) :
      Transition moment (.advance milliseconds) .advanced
        { moment with now := moment.now + milliseconds }

theorem step_cases (moment : Moment) (operation : Operation) :
    Transition moment operation (step moment operation).1 (step moment operation).2 := by
  cases operation with
  | activate draw key limit => exact .activate (activate_cases rfl)
  | sign value digest => exact .sign (sign_cases rfl)
  | observe => exact .observe (observe_cases rfl)
  | isActive => exact .isActive
  | destroy => exact .destroy (destroy_cases rfl)
  | advance milliseconds => exact .advance milliseconds

/-- No operation changes the signer or the lifetime of sessions. -/
theorem Transition.configuration
    {moment next : Moment}
    {operation : Operation}
    {outcome : Outcome}
    (transition : Transition moment operation outcome next) :
    next.keeper.signer = moment.keeper.signer ∧
      next.keeper.lifetime = moment.keeper.lifetime := by
  cases transition with
  | activate activating => cases activating <;> exact ⟨rfl, rfl⟩
  | sign signing => cases signing <;> exact ⟨rfl, rfl⟩
  | observe observing => cases observing <;> exact ⟨rfl, rfl⟩
  | isActive => exact ⟨rfl, rfl⟩
  | destroy destroying => cases destroying <;> exact ⟨rfl, rfl⟩
  | advance => exact ⟨rfl, rfl⟩

/-- No history changes the lifetime of sessions. -/
theorem lifetime_run (moment : Moment) (operations : List Operation) :
    (run moment operations).2.keeper.lifetime = moment.keeper.lifetime :=
  History.run_keeps (·.keeper.lifetime)
    (fun moment operation => (step_cases moment operation).configuration.2)
    moment operations

end OrderCustody.Keeper
