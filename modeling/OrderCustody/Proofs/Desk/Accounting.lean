import OrderCustody.Proofs.Decimal
import OrderCustody.Proofs.Desk.Entries
import OrderCustody.Proofs.Trial

/-!
# The trail accounts for what was authorized

Whoever has the trail alone can tell under which session every signature was made and
how much that session had authorized by then.  Lines are written by the turns that owe
them; what the lines say of a session that is open agrees with the session that is
held, and so every line for a signature is accounted for by the lines before it.
-/

namespace OrderCustody.Audit

/-- The value that an event says was authorized. -/
def Event.authorized (event : Event) : Nat :=
  match event.entry.kind with
  | .orderSigned => (event.entry.orderValue.bind Decimal.parse?).getD 0
  | _ => 0

/-- The value that events say was authorized altogether. -/
def authorizedIn : List Event → Nat
  | [] => 0
  | event :: events => event.authorized + authorizedIn events

@[simp] theorem authorizedIn_append (first second : List Event) :
    authorizedIn (first ++ second) = authorizedIn first + authorizedIn second := by
  induction first with
  | nil => simp [authorizedIn]
  | cons event events inductionHypothesis =>
      simp [authorizedIn, inductionHypothesis, Nat.add_assoc]

/-- An event for the start of a session, behind which no event says that the session
ended or another one started. -/
structure Opening (events : List Event) where
  before : List Event
  activation : Event
  during : List Event
  address : String
  limit : Nat
  split : events = before ++ activation :: during
  starts : activation.entry.kind = .sessionActivated
  addressed : activation.entry.address = some address
  limited : activation.entry.maxValueLimit = some (Decimal.text limit)
  unclosed :
    ∀ event ∈ during,
      event.entry.kind = .orderSigned ∨ event.entry.kind = .signRejected

/-- The start of a session in the last event. -/
def Opening.ofLast
    {events : List Event}
    {activation : Event}
    {address : String}
    {limit : Nat}
    (starts : activation.entry.kind = .sessionActivated)
    (addressed : activation.entry.address = some address)
    (limited : activation.entry.maxValueLimit = some (Decimal.text limit)) :
    Opening (events ++ [activation]) where
  before := events
  activation := activation
  during := []
  address := address
  limit := limit
  split := rfl
  starts := starts
  addressed := addressed
  limited := limited
  unclosed _ inDuring := by cases inDuring

/-- An opening one event later. -/
def Opening.later
    {events : List Event}
    (opening : Opening events)
    {event : Event}
    (unclosing :
      event.entry.kind = .orderSigned ∨ event.entry.kind = .signRejected) :
    Opening (events ++ [event]) :=
  { opening with
    during := opening.during ++ [event]
    split :=
      calc
        events ++ [event] =
            (opening.before ++ opening.activation :: opening.during) ++ [event] :=
          congrArg (· ++ [event]) opening.split
        _ = opening.before ++ opening.activation :: (opening.during ++ [event]) :=
          List.append_assoc _ _ _
    unclosed := by
      intro member inDuring
      rcases List.mem_append.mp inDuring with before | last
      · exact opening.unclosed member before
      · cases List.mem_singleton.mp last
        exact unclosing }

/-- An event for a signature says what the events before it say: whose session it is,
and how much that session has authorized, this signature included, within its
limit. -/
def AccountedFor (earlier : List Event) (event : Event) : Prop :=
  ∃ opening : Opening earlier,
    event.entry.address = some opening.address ∧
      event.entry.valueUsed =
        some (Decimal.text (authorizedIn (opening.during ++ [event]))) ∧
      authorizedIn (opening.during ++ [event]) ≤ opening.limit

/-- Every event for a signature is accounted for by the events before it. -/
def Accounted (events : List Event) : Prop :=
  ∀ earlier event later,
    events = earlier ++ event :: later →
    event.entry.kind = .orderSigned →
    AccountedFor earlier event

theorem Accounted.concat
    {events : List Event}
    (accounted : Accounted events)
    {last : Event}
    (accountedLast : last.entry.kind = .orderSigned → AccountedFor events last) :
    Accounted (events ++ [last]) := by
  intro earlier event later split signed
  rcases List.eq_nil_or_concat later with rfl | ⟨front, final, rfl⟩
  · obtain ⟨rfl, sameLast⟩ := List.append_inj' split rfl
    cases sameLast
    exact accountedLast signed
  · have regrouped : events ++ [last] = (earlier ++ event :: front) ++ [final] := by
      simpa using split
    exact accounted earlier event front (List.append_inj' regrouped rfl).1 signed

end OrderCustody.Audit

namespace OrderCustody.Desk

open Audit (Accounted AccountedFor Opening authorizedIn)

/-- The books of a trail are right: signatures are accounted for, and what it says of
an open session agrees with the session that is held. -/
structure Balanced (events : List Audit.Event) (held : Option Session) : Prop where
  accounted : Accounted events
  agrees :
    ∀ session,
      held = some session →
      ∃ opening : Opening events,
        opening.address = session.address ∧
          opening.limit = session.limit ∧
          authorizedIn opening.during = session.used

namespace Balanced

variable {events : List Audit.Event}
variable {held heldAfter : Option Session}

theorem vacant : Balanced [] none where
  accounted := by
    intro earlier event later split
    simp at split
  agrees _ heldNow := by cases heldNow

theorem displaced (balanced : Balanced events held) : Balanced events none where
  accounted := balanced.accounted
  agrees _ heldNow := by cases heldNow

theorem closed
    (balanced : Balanced events held)
    {event : Audit.Event}
    (kind :
      event.entry.kind = .sessionDestroyed ∨ event.entry.kind = .sessionExpired) :
    Balanced (events ++ [event]) none where
  accounted :=
    balanced.accounted.concat fun signed => by
      rcases kind with destroyed | expired
      · simp [destroyed] at signed
      · simp [expired] at signed
  agrees _ heldNow := by cases heldNow

theorem rejected
    (balanced : Balanced events held)
    {event : Audit.Event}
    (kind : event.entry.kind = .signRejected) :
    Balanced (events ++ [event]) held where
  accounted := balanced.accounted.concat fun signed => by simp [kind] at signed
  agrees session heldNow := by
    obtain ⟨opening, sameAddress, sameLimit, sameUsed⟩ :=
      balanced.agrees session heldNow
    refine ⟨opening.later (.inr kind), sameAddress, sameLimit, ?_⟩
    have noValue : event.authorized = 0 := by simp [Audit.Event.authorized, kind]
    calc
      authorizedIn (opening.during ++ [event]) = authorizedIn opening.during := by
        simp [authorizedIn, noValue]
      _ = session.used := sameUsed

theorem started
    (balanced : Balanced events held)
    {event : Audit.Event}
    {session : Session}
    (kind : event.entry.kind = .sessionActivated)
    (address : event.entry.address = some session.address)
    (limit : event.entry.maxValueLimit = some (Decimal.text session.limit))
    (unused : session.used = 0) :
    Balanced (events ++ [event]) (some session) where
  accounted := balanced.accounted.concat fun signed => by simp [kind] at signed
  agrees other heldNow := by
    cases heldNow
    exact ⟨.ofLast kind address limit, rfl, rfl, unused.symm⟩

theorem signed
    (balanced : Balanced events held)
    {event : Audit.Event}
    {session : Session}
    {value : Nat}
    (kind : event.entry.kind = .orderSigned)
    (address : event.entry.address = some session.address)
    (orderValue : event.entry.orderValue = some (Decimal.text value))
    (valueUsed : event.entry.valueUsed = some (Decimal.text (session.used + value)))
    (within : session.used + value ≤ session.limit)
    (heldNow : held = some session) :
    Balanced (events ++ [event])
      (some { session with used := session.used + value }) := by
  obtain ⟨opening, sameAddress, sameLimit, sameUsed⟩ :=
    balanced.agrees session heldNow
  have authorizes : event.authorized = value := by
    simp [Audit.Event.authorized, kind, orderValue]
  have usedNow :
      authorizedIn (opening.during ++ [event]) = session.used + value := by
    simp [authorizedIn, authorizes, sameUsed]
  exact {
    accounted :=
      balanced.accounted.concat fun _ =>
        ⟨opening, sameAddress ▸ address, usedNow ▸ valueUsed,
          sameLimit ▸ usedNow ▸ within⟩
    agrees := fun other heldAfter => by
      cases heldAfter
      exact ⟨opening.later (.inl kind), sameAddress, sameLimit, usedNow⟩
  }

/-- Every turn keeps the books, whichever entry it leaves. -/
theorem step
    {turn : Turn}
    {entry : Option Audit.Entry}
    (leaves : Leaves turn entry)
    (balanced : Balanced events turn.before.desk.keeper.held) :
    Balanced (events ++ (owedEvent? turn).toList) turn.after.desk.keeper.held := by
  rw [owedEvent?, leaves.owed]
  cases leaves.effect with
  | kept _ held =>
      rw [held]
      simpa using balanced
  | displaced _ unheld =>
      rw [unheld]
      simpa using balanced.displaced
  | started _ kind address limit unused held =>
      rw [held]
      exact balanced.started kind address limit unused
  | signed _ kind address orderValue valueUsed within heldBefore held =>
      rw [held]
      exact balanced.signed kind address orderValue valueUsed within heldBefore
  | rejected _ kind held =>
      rw [held]
      exact balanced.rejected kind
  | closed _ kind unheld =>
      rw [unheld]
      exact balanced.closed kind

theorem run
    {start : Moment}
    (unheld : start.desk.keeper.held = none)
    (operations : List Operation) :
    Balanced ((turns start operations).filterMap owedEvent?)
      (Desk.run start operations).2.desk.keeper.held := by
  have balanced :
      Balanced (([] : List Turn).filterMap owedEvent?) start.desk.keeper.held := by
    rw [unheld]
    exact vacant
  refine
    History.run_invariant
      (fun past moment =>
        Balanced (past.filterMap owedEvent?) moment.desk.keeper.held)
      balanced operations ?_
  intro past moment operation _ balanced
  obtain ⟨entry, leaves⟩ := (step_cases moment operation).leaves
  rw [owedEvents_concat]
  exact balanced.step leaves

end Balanced

/-- The report of an activation is the report of the session that it leaves. -/
theorem held_of_activated
    {turn : Turn}
    (transition : Transition turn.before turn.input turn.output turn.after)
    {report : SessionReport}
    (answered : turn.output = .activated (.ok report)) :
    ∃ session,
      turn.after.desk.keeper.held = some session ∧
        report.sessionAddress = session.address ∧
        report.maxValueLimit = Decimal.text session.limit := by
  rw [answered] at transition
  generalize turn.after = next at transition ⊢
  generalize turn.input = operation at transition
  cases transition with
  | activate activating =>
      cases activating with
      | activated activating =>
          cases activating with
          | started derived sealing fresh => exact ⟨_, rfl, rfl, rfl⟩

/--
The trail accounts for every unit that was authorized, in every history of a desk with
a file attached, whatever its signer and settings.

To what the file held it adds exactly the events that the turns owe, in their order:
one for every activation that succeeds, with the address and the limit of its session,
one for every signature, one for every request to sign that is refused but for
malformed input, one for every destruction that finds a session and one for every
report that tears one down, and no others.  Each event for a signature comes behind
one for an activation, with none in between that ends a session; it has the address
of that activation, and says as used the sum of the values of all signatures since,
which the limit of that activation bounds.
-/
theorem trail_accounted
    (clock : Clock)
    (domain : TypedData.Domain)
    (defaultLimit : Nat)
    (signer : Signer)
    (lifetime : Nat)
    (instanceId : String)
    (written : List Audit.Event)
    (operations : List Operation) :
    let start :=
      Moment.vacant clock domain defaultLimit signer lifetime ⟨instanceId, some written⟩
    let events := (turns start operations).filterMap owedEvent?
    (run start operations).2.desk.trail.file = some (written ++ events) ∧
      (∀ turn ∈ turns start operations,
        ∀ report,
          turn.output = .activated (.ok report) →
          ∃ session,
            turn.after.desk.keeper.held = some session ∧
              report.sessionAddress = session.address ∧
              report.maxValueLimit = Decimal.text session.limit) ∧
      ∀ earlier event later,
        events = earlier ++ event :: later →
        event.entry.kind = .orderSigned →
        ∃ opening : Opening earlier,
          event.entry.address = some opening.address ∧
            event.entry.valueUsed =
              some (Decimal.text (authorizedIn (opening.during ++ [event]))) ∧
            authorizedIn (opening.during ++ [event]) ≤ opening.limit := by
  intro start events
  exact ⟨
    file_run rfl operations,
    fun _ member _ answered =>
      held_of_activated (transition_of_mem_turns member) answered,
    (Balanced.run rfl operations).accounted⟩

end OrderCustody.Desk
