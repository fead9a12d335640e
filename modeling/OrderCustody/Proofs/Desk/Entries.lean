import OrderCustody.Proofs.Desk.Transition

namespace OrderCustody.Desk

/-!
# What a turn owes to the trail

The entry that each turn has to leave is read off what was asked, what was answered
and whether a session is held, without looking at the trail.  A desk with a file
attached writes exactly these entries, in the order of its turns.
-/

/-- A desk without a session and with some trail, at a time. -/
def Moment.vacant
    (clock : Clock)
    (domain : TypedData.Domain)
    (defaultLimit : Nat)
    (signer : Signer)
    (lifetime : Nat)
    (trail : Audit.Trail) :
    Moment where
  clock := clock
  desk := {
    domain
    defaultLimit
    keeper := .vacant signer lifetime
    trail
  }

/-- The value of the order in a request as text, if the order is well formed. -/
def orderValue? (request : SignRequest) : Option String :=
  match request.order with
  | none => none
  | some orderRequest =>
      match orderRequest.parse with
      | .error _ => none
      | .ok order => some (Decimal.text order.makerAmount)

/-- The entry that a turn owes to the trail. -/
def owed? (turn : Turn) : Option Audit.Entry :=
  let held := turn.before.desk.keeper.held
  let heldAfter := turn.after.desk.keeper.held
  match turn.input, turn.output with
  | .activate _ _ _, .activated (.ok report) =>
      some {
        kind := .sessionActivated
        address := some report.sessionAddress
        maxValueLimit := some report.maxValueLimit
      }
  | .sign request, .signed (.ok response) =>
      some {
        kind := .orderSigned
        address := some response.signerAddress
        orderValue := orderValue? request
        valueUsed := heldAfter.map fun session => Decimal.text session.used
      }
  | .sign _, .signed (.error (.invalidInput _)) => none
  | .sign request, .signed (.error refusal) =>
      some {
        kind := if refusal = .sessionExpired then .sessionExpired else .signRejected
        orderValue := orderValue? request
        reason := some refusal.code
      }
  | .status, .reported _ =>
      if held.isSome && heldAfter.isNone then
        some {
          kind := .sessionExpired
          reason := some "status_check"
        }
      else none
  | .destroy, .destroyed found =>
      held.map fun _ => {
        kind := if found = .expired then .sessionExpired else .sessionDestroyed
      }
  | _, _ => none

/-- The entry that a turn owes, with the time and the instance of the turn. -/
def owedEvent? (turn : Turn) : Option Audit.Event :=
  (owed? turn).map fun entry => {
    timestamp := turn.before.clock.calendar
    instanceId := turn.before.desk.trail.instanceId
    entry
  }

/-- Whether the key that a turn loads is accepted, if it loads one. -/
def keyAccepted? (turn : Turn) : Option Bool :=
  match turn.input, turn.output with
  | .activate _ (.ok _) _, .activated (.ok _) => some true
  | .activate _ (.ok _) _, .activated (.error _) => some false
  | _, _ => none

theorem orderValue?_of_checkOrder
    {domain : TypedData.Domain}
    {request : SignRequest}
    {order : Order}
    {digest : Digest}
    (checking : checkOrder domain request = .ok (order, digest)) :
    orderValue? request = some (Decimal.text order.makerAmount) := by
  obtain ⟨orderRequest, submitted, parsing, _⟩ := checkOrder_eq_ok checking
  simp only [orderValue?, submitted, parsing]

theorem checkOrder_eq_error
    {domain : TypedData.Domain}
    {request : SignRequest}
    {refusal : Refusal}
    (checking : checkOrder domain request = .error refusal) :
    ∃ detail, refusal = .invalidInput detail := by
  unfold checkOrder at checking
  split at checking
  · cases checking
    exact ⟨_, rfl⟩
  · split at checking
    · cases checking
      exact ⟨_, rfl⟩
    · split at checking
      · cases checking
        exact ⟨_, rfl⟩
      · cases checking

section Owed

variable {moment next : Moment}
variable {request : SignRequest}

theorem owed?_of_malformed
    {refusal : Refusal}
    (checking : checkOrder moment.desk.domain request = .error refusal) :
    owed? ⟨moment, .sign request, .signed (.error refusal), next⟩ = none := by
  obtain ⟨detail, rfl⟩ := checkOrder_eq_error checking
  rfl

/-- No fault of a session operation is taken for malformed input, so each of them
owes an entry. -/
theorem owed?_of_refused
    {order : Order}
    {digest : Digest}
    (checking : checkOrder moment.desk.domain request = .ok (order, digest))
    (fault : SessionFault) :
    owed? ⟨moment, .sign request, .signed (.error (.ofSessionFault fault)), next⟩ =
      some (refusedEntry order fault) := by
  have value := orderValue?_of_checkOrder checking
  cases fault <;>
    simp [owed?, Refusal.ofSessionFault, refusedEntry, value]

theorem owed?_of_signed
    {order : Order}
    {digest : Digest}
    (checking : checkOrder moment.desk.domain request = .ok (order, digest))
    {session : Session}
    {used : Nat}
    {signature : String}
    (heldAfter : next.desk.keeper.held = some { session with used }) :
    owed? ⟨moment, .sign request, .signed (.ok ⟨signature, session.address⟩), next⟩ =
      some {
        kind := .orderSigned
        address := some session.address
        orderValue := some (Decimal.text order.makerAmount)
        valueUsed := some (Decimal.text used)
      } := by
  simp [owed?, orderValue?_of_checkOrder checking, heldAfter]

end Owed

/-- What a turn does to the session that is held, by the entry that it owes. -/
inductive Effect (turn : Turn) : Option Audit.Entry → Prop where
  /-- The session stays as it is. -/
  | kept
      (noKey : keyAccepted? turn = none)
      (held : turn.after.desk.keeper.held = turn.before.desk.keeper.held) :
      Effect turn none
  /-- A key that is refused takes the session with it. -/
  | displaced
      (refused : keyAccepted? turn = some false)
      (unheld : turn.after.desk.keeper.held = none) :
      Effect turn none
  | started
      {entry : Audit.Entry}
      {session : Session}
      (accepted : keyAccepted? turn = some true)
      (kind : entry.kind = .sessionActivated)
      (address : entry.address = some session.address)
      (limit : entry.maxValueLimit = some (Decimal.text session.limit))
      (unused : session.used = 0)
      (held : turn.after.desk.keeper.held = some session) :
      Effect turn (some entry)
  | signed
      {entry : Audit.Entry}
      {session : Session}
      {value : Nat}
      (noKey : keyAccepted? turn = none)
      (kind : entry.kind = .orderSigned)
      (address : entry.address = some session.address)
      (orderValue : entry.orderValue = some (Decimal.text value))
      (valueUsed : entry.valueUsed = some (Decimal.text (session.used + value)))
      (within : session.used + value ≤ session.limit)
      (heldBefore : turn.before.desk.keeper.held = some session)
      (held :
        turn.after.desk.keeper.held =
          some { session with used := session.used + value }) :
      Effect turn (some entry)
  | rejected
      {entry : Audit.Entry}
      (noKey : keyAccepted? turn = none)
      (kind : entry.kind = .signRejected)
      (held : turn.after.desk.keeper.held = turn.before.desk.keeper.held) :
      Effect turn (some entry)
  | closed
      {entry : Audit.Entry}
      (noKey : keyAccepted? turn = none)
      (kind : entry.kind = .sessionDestroyed ∨ entry.kind = .sessionExpired)
      (unheld : turn.after.desk.keeper.held = none) :
      Effect turn (some entry)

/-- What a turn leaves behind: the entry that it owes, in the trail, and its effect
on the session. -/
structure Leaves (turn : Turn) (entry : Option Audit.Entry) : Prop where
  owed : owed? turn = entry
  trail :
    turn.after.desk.trail =
      entry.elim turn.before.desk.trail
        (turn.before.desk.trail.record turn.before.clock.calendar)
  effect : Effect turn entry

/-- A refused request to sign ends the session only if it finds it expired, and says
so by its kind. -/
theorem Leaves.of_refused
    {moment : Moment}
    {request : SignRequest}
    {order : Order}
    {digest : Digest}
    {fault : SessionFault}
    {next : Keeper}
    (checking : checkOrder moment.desk.domain request = .ok (order, digest))
    (signing :
      Keeper.Signing moment.desk.keeper moment.clock.elapsed order.makerAmount digest
        (.error fault) next) :
    Leaves
      ⟨moment, .sign request, .signed (.error (.ofSessionFault fault)),
        { moment with
          desk :=
            { moment.desk with keeper := next }.record moment.clock
              (refusedEntry order fault) }⟩
      (some (refusedEntry order fault)) where
  owed := owed?_of_refused checking fault
  trail := rfl
  effect := by
    cases signing with
    | vacant => exact .rejected rfl rfl rfl
    | expired => exact .closed rfl (.inr rfl) rfl
    | overLimit => exact .rejected rfl rfl rfl
    | notRevealed => exact .rejected rfl rfl rfl
    | failed => exact .rejected rfl rfl rfl

/-- Every turn writes what it owes, and nothing else. -/
theorem Transition.leaves
    {moment next : Moment}
    {operation : Operation}
    {outcome : Outcome}
    (transition : Transition moment operation outcome next) :
    ∃ entry, Leaves ⟨moment, operation, outcome, next⟩ entry := by
  cases transition with
  | activate activating =>
      cases activating with
      | notLoaded => exact ⟨none, rfl, rfl, .kept rfl rfl⟩
      | refused activating =>
          cases activating with
          | rejected => exact ⟨none, rfl, rfl, .displaced rfl rfl⟩
          | notSealed => exact ⟨none, rfl, rfl, .displaced rfl rfl⟩
      | activated activating =>
          cases activating with
          | started derived sealing fresh =>
              subst fresh
              exact ⟨_, rfl, rfl, .started rfl rfl rfl rfl rfl rfl⟩
  | sign signing =>
      cases signing with
      | malformed checking =>
          exact ⟨none, owed?_of_malformed checking, rfl, .kept rfl rfl⟩
      | refused checking signing => exact ⟨_, .of_refused checking signing⟩
      | signed checking signing =>
          cases signing with
          | signed held live within revealing signing =>
              exact ⟨_, owed?_of_signed checking rfl, rfl,
                .signed rfl rfl rfl rfl rfl within held rfl⟩
  | status reporting =>
      cases reporting with
      | vacant held =>
          exact ⟨none, by simp [owed?, held], rfl, .kept rfl rfl⟩
      | expired held late =>
          exact ⟨some { kind := .sessionExpired, reason := some "status_check" },
            by simp [owed?, held, record, Keeper.cleared], rfl,
            .closed rfl (.inr rfl) rfl⟩
      | live held live =>
          exact ⟨none, by simp [owed?, held], rfl, .kept rfl rfl⟩
  | destroy destroying =>
      cases destroying with
      | vacant held =>
          exact ⟨none, by simp [owed?, held], rfl, .kept rfl rfl⟩
      | expired held late =>
          exact ⟨some { kind := .sessionExpired }, by simp [owed?, held], rfl,
            .closed rfl (.inr rfl) rfl⟩
      | live held live =>
          exact ⟨some { kind := .sessionDestroyed }, by simp [owed?, held], rfl,
            .closed rfl (.inl rfl) rfl⟩
  | advance => exact ⟨none, rfl, rfl, .kept rfl rfl⟩

theorem owedEvents_concat (past : List Turn) (turn : Turn) :
    (past ++ [turn]).filterMap owedEvent? =
      past.filterMap owedEvent? ++ (owedEvent? turn).toList := by
  rw [List.filterMap_append]
  cases owed : owedEvent? turn <;> simp [owed]

theorem Leaves.file
    {turn : Turn}
    {entry : Option Audit.Entry}
    (leaves : Leaves turn entry) :
    turn.after.desk.trail.file =
      turn.before.desk.trail.file.map (· ++ (owedEvent? turn).toList) := by
  rw [leaves.trail, owedEvent?, leaves.owed]
  cases entry with
  | none => simp
  | some entry => rfl

/-- A file holds what it held when it was attached and then what the turns owe, in
their order. -/
theorem file_run
    {start : Moment}
    {written : List Audit.Event}
    (attached : start.desk.trail.file = some written)
    (operations : List Operation) :
    (run start operations).2.desk.trail.file =
      some (written ++ (turns start operations).filterMap owedEvent?) := by
  have nothingWritten :
      start.desk.trail.file = some (written ++ [].filterMap owedEvent?) := by
    simpa using attached
  refine
    History.run_invariant
      (fun past moment =>
        moment.desk.trail.file = some (written ++ past.filterMap owedEvent?))
      nothingWritten operations ?_
  intro past moment operation _ filed
  obtain ⟨entry, leaves⟩ := (step_cases moment operation).leaves
  calc
    (step moment operation).2.desk.trail.file =
        moment.desk.trail.file.map
          (· ++ (owedEvent? (History.turn step moment operation)).toList) :=
      leaves.file
    _ = some (written ++
          (past ++ [History.turn step moment operation]).filterMap owedEvent?) := by
      rw [filed, owedEvents_concat, Option.map_some, List.append_assoc]

end OrderCustody.Desk
