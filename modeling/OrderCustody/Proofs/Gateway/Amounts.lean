import OrderCustody.Proofs.Audit.Decoding
import OrderCustody.Proofs.Desk.Entries
import OrderCustody.Proofs.Gateway.Starting
import OrderCustody.Proofs.Trial

namespace OrderCustody

/-!
# Amounts are told exactly

Amounts are numbers of any size inside and decimal text outside.  A text is read as the
number that it denotes, and a number is written so that it denotes it.  So whatever is
reported or recorded of a session says what the session holds, to the last digit, and a
limit that was reported is the same limit when it is asked for again.
-/

/-! ## Reading an amount -/

namespace Field

theorem decimal_eq_ok_iff (field text : String) (number : Nat) :
    decimal field text = .ok number ↔ Decimal.Denotes text.toList number := by
  rw [← Decimal.parse?_eq_some_iff, decimal]
  cases Decimal.parse? text <;> simp

theorem decimal_eq_error_iff (field text : String) (fault : FieldFault) :
    decimal field text = .error fault ↔
      fault = .notDecimal field text ∧ ∀ number, ¬ Decimal.Denotes text.toList number := by
  simp only [← Decimal.parse?_eq_some_iff, decimal]
  cases Decimal.parse? text <;> simp [eq_comm]

end Field

/-! ## Reports -/

/-- The texts of a limit and of what is used say it of the session that is held; they say
zero if none is. -/
structure Tells (limit used : String) (held : Option Session) : Prop where
  limit : Decimal.Denotes limit.toList (held.elim 0 Session.limit)
  used : Decimal.Denotes used.toList (held.elim 0 Session.used)

namespace Tells

variable {held : Option Session}

theorem of_unheld (unheld : held = none) :
    Tells SessionStatus.inactive.limit SessionStatus.inactive.used held := by
  rw [unheld]
  exact ⟨Decimal.denotes_text 0, Decimal.denotes_text 0⟩

theorem of_held {session : Session} (holds : held = some session) (now : Nat) :
    Tells (session.status now).limit (session.status now).used held := by
  rw [holds]
  exact ⟨Decimal.denotes_text session.limit, Decimal.denotes_text session.used⟩

end Tells

namespace Keeper

/-- The status that an operation gives, if it gives one. -/
def Outcome.status? : Outcome → Option SessionStatus
  | .activated (.ok status) => some status
  | .observed status _ => some status
  | _ => none

/-- Every turn of a history is one of the cases. -/
theorem transition_of_mem_turns
    {start : Moment}
    {operations : List Operation}
    {turn : Turn}
    (member : turn ∈ turns start operations) :
    Transition turn.before turn.input turn.output turn.after := by
  obtain ⟨first, operation, rfl⟩ := History.exists_of_mem_turns member
  exact step_cases (run start first).2 operation

/-- A status tells of the session that is held when it is given. -/
theorem Transition.tells
    {moment next : Moment}
    {operation : Operation}
    {outcome : Outcome}
    {status : SessionStatus}
    (transition : Transition moment operation outcome next)
    (given : outcome.status? = some status) :
    Tells status.limit status.used next.keeper.held := by
  cases transition with
  | activate activating =>
      cases activating with
      | rejected => cases given
      | notSealed => cases given
      | started =>
          cases given
          exact .of_held rfl moment.now
  | sign => cases given
  | observe observing =>
      cases given
      cases observing with
      | vacant held => exact .of_unheld held
      | expired => exact .of_unheld rfl
      | live held => exact .of_held held moment.now
  | isActive => cases given
  | destroy => cases given
  | advance => cases given

end Keeper

/-- The amounts of an entry are those of the session that is held: its limit if the session
has been activated, what is used of it if an order has been signed, and no others. -/
inductive Audit.Entry.Tells (entry : Audit.Entry) : Option Session → Prop where
  | limit
      {session : Session}
      {text : String}
      (kind : entry.kind = .sessionActivated)
      (limit : entry.maxValueLimit = some text)
      (denoted : Decimal.Denotes text.toList session.limit)
      (noUsed : entry.valueUsed = none) :
      Tells entry (some session)
  | used
      {session : Session}
      {text : String}
      (kind : entry.kind = .orderSigned)
      (noLimit : entry.maxValueLimit = none)
      (used : entry.valueUsed = some text)
      (denoted : Decimal.Denotes text.toList session.used) :
      Tells entry (some session)
  | neither
      {held : Option Session}
      (kind : entry.kind ≠ .sessionActivated ∧ entry.kind ≠ .orderSigned)
      (noLimit : entry.maxValueLimit = none)
      (noUsed : entry.valueUsed = none) :
      Tells entry held

namespace Desk

/-- The report that an operation gives, if it gives one. -/
def Outcome.report? : Outcome → Option SessionReport
  | .activated (.ok report) => some report
  | .reported report => some report
  | _ => none

section Step

variable
  {moment next : Moment}
  {operation : Operation}
  {outcome : Outcome}

/-- A report tells of the session that is held when it is given. -/
theorem Transition.report_tells
    {report : SessionReport}
    (transition : Transition moment operation outcome next)
    (given : outcome.report? = some report) :
    Tells report.maxValueLimit report.valueUsed next.desk.keeper.held := by
  cases transition with
  | activate activating =>
      cases activating with
      | notLoaded => cases given
      | refused => cases given
      | activated activating =>
          cases activating with
          | started =>
              cases given
              exact .of_held rfl moment.clock.elapsed
  | sign => cases given
  | status reporting =>
      cases given
      cases reporting with
      | vacant held => exact .of_unheld held
      | expired => exact .of_unheld rfl
      | live held => exact .of_held held moment.clock.elapsed
  | destroy => cases given
  | advance => cases given

/-- What a turn owes to the trail tells of the session that is held when it is written. -/
theorem Transition.entry_tells
    {entry : Audit.Entry}
    (transition : Transition moment operation outcome next)
    (owed : owed? ⟨moment, operation, outcome, next⟩ = some entry) :
    entry.Tells next.desk.keeper.held := by
  cases transition with
  | activate activating =>
      cases activating with
      | notLoaded => cases owed
      | refused => cases owed
      | activated activating =>
          cases activating with
          | started derived sealing fresh =>
              cases owed
              subst fresh
              exact .limit rfl rfl (Decimal.denotes_text _) rfl
  | sign signing =>
      cases signing with
      | malformed checking =>
          cases (owed?_of_malformed checking).symm.trans owed
      | @refused order digest fault _ checking signing =>
          cases (owed?_of_refused checking fault).symm.trans owed
          have kind :
              (refusedEntry order fault).kind ≠ .sessionActivated ∧
                (refusedEntry order fault).kind ≠ .orderSigned := by
            cases fault <;> simp [refusedEntry]
          exact .neither kind rfl rfl
      | signed checking signing =>
          cases signing with
          | signed held live within revealing signing =>
              cases (owed?_of_signed checking rfl).symm.trans owed
              exact .used rfl rfl rfl (Decimal.denotes_text _)
  | status reporting =>
      simp only [owed?] at owed
      split at owed
      · cases owed
        exact .neither (by decide) rfl rfl
      · cases owed
  | @destroy found _ destroying =>
      obtain ⟨_, -, rfl⟩ := Option.map_eq_some_iff.mp owed
      refine .neither ?_ rfl rfl
      cases found <;> decide
  | advance => cases owed

end Step

/-- A turn adds lines to the file that are read back as events, each of which tells of the
session that is held when it is written. -/
theorem exists_added_of_mem_turns
    {start : Moment}
    {operations : List Operation}
    {turn : Turn}
    (member : turn ∈ turns start operations) :
    ∃ added : List Audit.Event,
      turn.after.desk.trail.file = turn.before.desk.trail.file.map (· ++ added) ∧
        ∀ event ∈ added,
          Audit.Event.ofJson (Bytes.ofText event.line) = .ok event ∧
            event.entry.Tells turn.after.desk.keeper.held := by
  have transition := transition_of_mem_turns member
  obtain ⟨entry, leaves⟩ := transition.leaves
  refine ⟨(owedEvent? turn).toList, leaves.file, fun event isAdded => ?_⟩
  obtain ⟨entry, owed, rfl⟩ :=
    Option.map_eq_some_iff.mp (Option.mem_toList.mp isAdded)
  exact ⟨Audit.Event.ofJson_line_of_isRegular turn.before.clock.regular,
    transition.entry_tells owed⟩

end Desk

/-! ## Asking for a limit -/

namespace Gateway

/-- The body of a request to start a session with a limit. -/
def limitBody (text : String) : Bytes :=
  Bytes.ofText (Json.Value.record [("maxValueLimit", .text text)]).render

theorem ActivationRequest.ofJson_limitBody (text : String) :
    ofJson (limitBody text) = .ok { maxValueLimit := some text } := by
  have distinct : (members.map Json.Member.name).Nodup := by decide
  have yields :
      Json.Row.Yields members (Json.Row.empty members) _ (some text, ()) :=
    .next ((Json.reads_text text).optional nofun) .done
  exact ((Json.reads_record "ActivateRequest" distinct yields).map ofValues).run

/-- The administrator asks for a session with the limit that a text names, and nothing is
in the way of it: the body can be read, and a key is loaded and accepted. -/
structure Grants
    (gateway : Gateway)
    (around : Surroundings)
    (request : Request)
    (text : String) : Prop where
  posted : request.method = "POST"
  asked : request.path = "/v1/session/activate"
  authorized : authorize gateway.adminKey request = .ok ()
  readable : request.Readable
  named : ActivationRequest.ofJson request.body = .ok { maxValueLimit := some text }
  accepted :
    ∃ source key address,
      gateway.keySource = some source ∧
        source.load around.files = .ok key ∧
        gateway.desk.keeper.signer.address key = .ok address ∧
        key ≠ []

/-- The session that is started has the limit that is denoted, and is reported with it. -/
theorem Grants.handle_eq
    {gateway : Gateway}
    {around : Surroundings}
    {request : Request}
    {text : String}
    {number : Nat}
    (grants : Grants gateway around request text)
    (denoted : Decimal.Denotes text.toList number) :
    ∃ (report : SessionReport) (session : Session) (next : Gateway),
      gateway.handle around request = (.ok report.toJson, next) ∧
        next.desk.keeper.held = some session ∧
        session.limit = number ∧
        session.used = 0 ∧
        Tells report.maxValueLimit report.valueUsed (some session) := by
  obtain ⟨source, key, address, configured, loaded, derived, some⟩ := grants.accepted
  have body : request.body ≠ [] := by
    intro nothing
    have named := grants.named
    rw [nothing] at named
    cases named
  have admitted : Admitted gateway request source (.some number) :=
    ⟨grants.readable, grants.authorized, .named body grants.named denoted, configured⟩
  obtain ⟨session, fresh, activated⟩ :=
    gateway.desk.activateFrom_of_derived around.clock around.draw (.some number) derived some
  have handled : gateway.handle around request = _ :=
    handle_of_admitted grants.posted grants.asked admitted
  rw [loaded, activated] at handled
  refine ⟨_, session, _, handled, rfl, fresh.limit_eq, fresh.used_eq, ?_, ?_⟩
  · rw [Option.elim_some, fresh.limit_eq]
    exact Decimal.denotes_text number
  · rw [Option.elim_some, fresh.used_eq]
    exact Decimal.denotes_text 0

/--
Amounts are told exactly, whatever their size.

A field is read as a number exactly from the digits that denote it, of which there has to
be one, and nothing else; any other text is refused as no decimal number, with its field.
What is written for a number is read as that number.  A text that is read is zeros and
behind them what is written for its number, which has no zero in front unless it is zero.

In every history of a keeper, the status that is given at a turn tells the limit and what
is used of the session that is held then, and so does, in every history of a desk, the
report that is given.  The lines that a turn adds to the audit file are read back, and their
amounts are those of the session that is held when they are written.  A text that is sent as
a limit arrives as it was sent.  If the administrator asks for a session with the limit of
such a report, and nothing else is in the way, then a session starts with that limit, nothing
of it used, and is reported so.
-/
theorem amounts_told_exactly :
    (∀ field text number,
      Field.decimal field text = .ok number ↔ Decimal.Denotes text.toList number) ∧
    (∀ field text,
      (∃ number, Field.decimal field text = .ok number) ↔
        text ≠ "" ∧ ∀ c ∈ text.toList, '0' ≤ c ∧ c ≤ '9') ∧
    (∀ field text fault,
      Field.decimal field text = .error fault ↔
        fault = .notDecimal field text ∧
          ∀ number, ¬ Decimal.Denotes text.toList number) ∧
    (∀ field number, Field.decimal field (Decimal.text number) = .ok number) ∧
    (∀ field text number,
      Field.decimal field text = .ok number →
      (∃ zeros, text.toList = List.replicate zeros '0' ++ (Decimal.text number).toList) ∧
        ((Decimal.text number).toList.head? = some '0' → Decimal.text number = "0")) ∧
    (∀ (start : Keeper.Moment) (operations : List Keeper.Operation),
      ∀ turn ∈ Keeper.turns start operations,
      ∀ status,
        turn.output.status? = some status →
        Tells status.limit status.used turn.after.keeper.held) ∧
    (∀ text,
      ActivationRequest.ofJson (limitBody text) = .ok { maxValueLimit := some text }) ∧
    (∀ (start : Desk.Moment) (operations : List Desk.Operation),
      ∀ turn ∈ Desk.turns start operations,
        (∀ report,
          turn.output.report? = some report →
          Tells report.maxValueLimit report.valueUsed turn.after.desk.keeper.held ∧
            ∀ (gateway : Gateway) (around : Surroundings) (request : Request),
              Grants gateway around request report.maxValueLimit →
              ∃ (again : SessionReport) (session : Session) (next : Gateway),
                gateway.handle around request = (.ok again.toJson, next) ∧
                  next.desk.keeper.held = some session ∧
                  session.limit = turn.after.desk.keeper.held.elim 0 Session.limit ∧
                  session.used = 0 ∧
                  Tells again.maxValueLimit again.valueUsed (some session)) ∧
        ∃ added : List Audit.Event,
          turn.after.desk.trail.file = turn.before.desk.trail.file.map (· ++ added) ∧
            ∀ event ∈ added,
              Audit.Event.ofJson (Bytes.ofText event.line) = .ok event ∧
                event.entry.Tells turn.after.desk.keeper.held) := by
  refine ⟨Field.decimal_eq_ok_iff, ?_, Field.decimal_eq_error_iff, ?_, ?_, ?_,
    ActivationRequest.ofJson_limitBody, ?_⟩
  · intro field text
    simp only [Field.decimal_eq_ok_iff, Decimal.exists_denotes_iff, Decimal.isDigit,
      Bool.and_eq_true, decide_eq_true_eq, ne_eq, String.toList_eq_nil_iff]
  · intro field number
    exact (Field.decimal_eq_ok_iff _ _ _).mpr (Decimal.denotes_text number)
  · intro field text number read
    refine ⟨((Field.decimal_eq_ok_iff _ _ _).mp read).exists_zeros, fun leading => ?_⟩
    rw [Decimal.toList_text] at leading
    rw [← String.toList_inj, Decimal.toList_text, Decimal.toDigits_of_leading_zero leading]
    rfl
  · intro start operations turn member status given
    exact (Keeper.transition_of_mem_turns member).tells given
  · intro start operations turn member
    refine ⟨fun report given => ?_, Desk.exists_added_of_mem_turns member⟩
    have tells := (Desk.transition_of_mem_turns member).report_tells given
    exact ⟨tells, fun _ _ _ grants => grants.handle_eq tells.limit⟩

/-- A limit of thirty digits is reported when a session starts, and another desk starts a
session with it. -/
theorem amounts_told_exactly_thirty_digits :
    let start : Desk.Moment := ⟨Trial.clock, Trial.desk⟩
    let number := 100000000000000000000000000001
    let operations : List Desk.Operation :=
      [.activate Trial.draw (.ok [1]) (some number), .advance 1000, .status]
    let around : Surroundings := ⟨Trial.clock, fun _ => .ok (Bytes.ofText "01"), Trial.draw⟩
    let request : Request := {
      method := "POST"
      target := "/v1/session/activate"
      headers := [⟨"X-API-Key", Bytes.ofText "secret"⟩]
      body := limitBody "100000000000000000000000000001"
    }
    ∃ turn ∈ Desk.turns start operations,
      ∃ report,
        turn.output.report? = some report ∧
          Grants (Trial.gateway Trial.activeDesk) around request report.maxValueLimit ∧
          ∃ (again : SessionReport) (session : Session) (next : Gateway),
            (Trial.gateway Trial.activeDesk).handle around request =
                (.ok again.toJson, next) ∧
              next.desk.keeper.held = some session ∧
              session.limit = number ∧
              session.used = 0 := by
  intro start number operations around request
  let turn := History.turn Desk.step (Desk.run start (operations.take 2)).2 .status
  let report : SessionReport := {
    active := true
    ttlSeconds := 59
    maxValueLimit := "100000000000000000000000000001"
    valueUsed := "0"
    sessionAddress := "0x00"
  }
  have member : turn ∈ Desk.turns start operations := List.mem_of_getElem? (i := 2) rfl
  have given : turn.output.report? = some report := by decide +kernel
  have held : turn.after.desk.keeper.held.elim 0 Session.limit = number := by decide +kernel
  have grants : Grants (Trial.gateway Trial.activeDesk) around request report.maxValueLimit := {
    posted := rfl
    asked := by decide +kernel
    authorized := by decide +kernel
    readable := by decide +kernel
    named := ActivationRequest.ofJson_limitBody _
    accepted := ⟨.file "key", [1], "0x00", rfl, by decide +kernel, rfl, by decide⟩
  }
  obtain ⟨-, -, -, -, -, -, -, told⟩ := amounts_told_exactly
  obtain ⟨-, renewed⟩ := (told start operations turn member).1 report given
  obtain ⟨again, session, next, handled, heldNow, limit, used, -⟩ :=
    renewed _ around request grants
  exact ⟨turn, member, report, given, grants, again, session, next, handled, heldNow,
    limit.trans held, used⟩

end Gateway

end OrderCustody
