import Mathlib.Data.List.Forall2
import OrderCustody.Proofs.Gateway.Transition
import OrderCustody.Proofs.History
import OrderCustody.Proofs.Trial

namespace OrderCustody.Gateway

/-!
# Requests without the administrator's key

Whoever does not present the administrator's key can look at the session and spend
within its limit, and nothing else.  No such request starts a session, changes one
or ends one before its time, and none reaches for the key source: the answers, and
all that happens at the desk, do not depend on what the key source would give.
-/

/-- Whether a happening comes without the administrator's key. -/
def Unprivileged (adminKey : Option String) : Happening → Prop
  | .request _ request => authorize adminKey request ≠ .ok ()
  | .advance _ => True
  | .files _ => True

instance (adminKey : Option String) (happening : Happening) :
    Decidable (Unprivileged adminKey happening) :=
  match happening with
  | .request _ request =>
      inferInstanceAs (Decidable (authorize adminKey request ≠ .ok ()))
  | .advance _ => inferInstanceAs (Decidable True)
  | .files _ => inferInstanceAs (Decidable True)

/-- The maker amount of the order in a body. -/
def orderedAmount? (body : Bytes) : Option Nat := do
  let signRequest ← (SignRequest.ofJson body).toOption
  let orderRequest ← signRequest.order
  let order ← orderRequest.parse.toOption
  return order.makerAmount

/-- The value that a turn authorizes: the amount of an order that was submitted for
signing and answered with success. -/
def authorized? (turn : Turn) : Option Nat :=
  match turn.input, turn.output with
  | .request _ request, some response =>
      if request.method = "POST" ∧ request.path = "/v1/orders/sign" ∧
          response.status = 200 then
        orderedAmount? request.body
      else none
  | _, _ => none

/-- The value that turns authorize altogether. -/
def authorizedIn (turns : List Turn) : Nat :=
  History.total authorized? turns

@[simp] theorem authorizedIn_append (first second : List Turn) :
    authorizedIn (first ++ second) = authorizedIn first + authorizedIn second :=
  History.total_append authorized? first second

section Answers

variable {before after : Moment}
variable {draw : Custody.Draw}
variable {request : Request}

/-- A request that is not for signing authorizes nothing. -/
theorem authorizedIn_of_not_sign
    {response : Response}
    (elsewhere : Route.of request.method request.path ≠ .sign) :
    authorizedIn [⟨before, .request draw request, some response, after⟩] = 0 := by
  rw [ne_eq, Route.of_eq_sign_iff] at elsewhere
  have unanswered :
      ¬ (request.method = "POST" ∧ request.path = "/v1/orders/sign" ∧
        response.status = 200) :=
    fun asked => elsewhere ⟨asked.1, asked.2.1⟩
  simp [authorizedIn, authorized?, unanswered]

/-- A request that is refused authorizes nothing. -/
theorem authorizedIn_of_refused (refusal : Refusal) :
    authorizedIn
      [⟨before, .request draw request, some (.refused refusal), after⟩] = 0 := by
  have status := Response.status_refused_ne refusal
  simp [authorizedIn, authorized?, status]

/-- A request to sign that is answered with success authorizes the amount of its
order. -/
theorem authorizedIn_of_signed
    {value : Json.Value}
    {amount : Nat}
    (routed : Route.of request.method request.path = .sign)
    (ordered : orderedAmount? request.body = some amount) :
    authorizedIn
      [⟨before, .request draw request, some (.ok value), after⟩] = amount := by
  obtain ⟨posted, signing⟩ := (Route.of_eq_sign_iff _ _).mp routed
  simp [authorizedIn, authorized?, posted, signing, ordered, Response.ok]

end Answers

/-- Whether a turn has a key loaded from the key source. -/
def Loads (turn : Turn) : Prop :=
  ∃ draw request source limit,
    turn.input = .request draw request ∧
      Route.of request.method request.path = .activate ∧
      turn.before.gateway.admitActivation request = .ok (source, limit)

/-- What may become of the session that is held at a time, with what it spends. -/
inductive Wearing (now : Nat) : Option Session → Nat → Option Session → Prop where
  | kept
      (held : Option Session) :
      Wearing now held 0 held
  | expired
      {session : Session}
      (late : session.expiresAt ≤ now) :
      Wearing now (some session) 0 none
  | spent
      (session : Session)
      (value : Nat) :
      Wearing now (some session) value
        (some { session with used := session.used + value })

namespace Wearing

/-- A report of the session spends nothing. -/
theorem of_reporting
    {desk next : Desk}
    {clock : Clock}
    {report : SessionReport}
    (reporting : Desk.Reporting desk clock report next) :
    Wearing clock.elapsed desk.keeper.held 0 next.keeper.held := by
  cases reporting with
  | vacant => exact .kept _
  | expired held late =>
      rw [held]
      exact .expired late
  | live => exact .kept _

/-- A request to sign that is refused spends nothing. -/
theorem of_refused
    {desk next : Desk}
    {clock : Clock}
    {request : SignRequest}
    {refusal : Refusal}
    (signing : Desk.Signing desk clock request (.error refusal) next) :
    Wearing clock.elapsed desk.keeper.held 0 next.keeper.held := by
  cases signing with
  | malformed => exact .kept _
  | refused checking signing =>
      cases signing with
      | vacant => exact .kept _
      | expired held late =>
          rw [held]
          exact .expired late
      | overLimit => exact .kept _
      | notRevealed => exact .kept _
      | failed => exact .kept _

/-- A request that is answered with a signature spends the amount of its order. -/
theorem of_signed
    {desk next : Desk}
    {clock : Clock}
    {body : Bytes}
    {request : SignRequest}
    {response : SignResponse}
    (parsing : SignRequest.ofJson body = .ok request)
    (signing : Desk.Signing desk clock request (.ok response) next) :
    ∃ amount,
      orderedAmount? body = some amount ∧
        Wearing clock.elapsed desk.keeper.held amount next.keeper.held := by
  cases signing with
  | @signed order digest signed keeper checking signing =>
      obtain ⟨orderRequest, submitted, orderParsing, _⟩ :=
        Desk.checkOrder_eq_ok checking
      refine ⟨order.makerAmount, ?_, ?_⟩
      · simp [orderedAmount?, parsing, submitted, orderParsing, Except.toOption]
      · cases signing with
        | signed held live within revealing signing =>
            rw [held]
            exact .spent _ order.makerAmount

/-- No happening without the administrator's key does more to the session. -/
theorem of_transition
    {moment next : Moment}
    {happening : Happening}
    {output : Option Response}
    (transition : Transition moment happening output next)
    (unprivileged : Unprivileged moment.gateway.adminKey happening) :
    Wearing moment.clock.elapsed moment.gateway.desk.keeper.held
      (authorizedIn [⟨moment, happening, output, next⟩])
      next.gateway.desk.keeper.held := by
  cases transition with
  | advance milliseconds => exact .kept _
  | files files => exact .kept _
  | request answering =>
      cases answering with
      | preflight routed =>
          rw [authorizedIn_of_not_sign (by simp [routed])]
          exact .kept _
      | health routed =>
          rw [authorizedIn_of_not_sign (by simp [routed])]
          exact .kept _
      | version routed =>
          rw [authorizedIn_of_not_sign (by simp [routed])]
          exact .kept _
      | status routed reporting =>
          rw [authorizedIn_of_not_sign (by simp [routed])]
          exact of_reporting reporting
      | unreadable routed reading =>
          rw [authorizedIn_of_refused]
          exact .kept _
      | unparsed routed reading parsing =>
          rw [authorizedIn_of_refused]
          exact .kept _
      | @sign body signRequest result next routed reading parsing signing =>
          cases result with
          | error refusal =>
              rw [Response.ofResult, authorizedIn_of_refused]
              exact of_refused signing
          | ok answer =>
              cases Request.readBody_eq_ok reading
              obtain ⟨amount, ordered, wearing⟩ := of_signed parsing signing
              rw [Response.ofResult, authorizedIn_of_signed routed ordered]
              exact wearing
      | notAdmitted routed admission =>
          rw [authorizedIn_of_refused]
          exact .kept _
      | activate routed admission activating =>
          exact (unprivileged (authorize_of_admitActivation admission)).elim
      | notAuthorized routed authorizing =>
          rw [authorizedIn_of_refused]
          exact .kept _
      | destroy routed authorizing destroying reporting =>
          exact (unprivileged authorizing).elim
      | unknown routed =>
          rw [authorizedIn_of_refused]
          exact .kept _

end Wearing

/-- What has become of a session: it is as it was but for what was authorized since,
or its end has passed and it is gone. -/
def Remains (session : Session) (past : List Turn) (moment : Moment) : Prop :=
  moment.gateway.desk.keeper.held =
      some { session with used := session.used + authorizedIn past } ∨
    moment.gateway.desk.keeper.held = none ∧
      session.expiresAt ≤ moment.clock.elapsed

section Happening

variable {past : List Turn}
variable {moment next : Moment}
variable {happening : Happening}
variable {output : Option Response}

/-- No session comes into being without the administrator's key. -/
theorem unheld_of_transition
    (transition : Transition moment happening output next)
    (unprivileged : Unprivileged moment.gateway.adminKey happening)
    (unheld : moment.gateway.desk.keeper.held = none) :
    next.gateway.desk.keeper.held = none := by
  have wearing := Wearing.of_transition transition unprivileged
  rw [unheld] at wearing
  generalize authorizedIn _ = value at wearing
  generalize next.gateway.desk.keeper.held = slot at wearing ⊢
  cases wearing with
  | kept => rfl

/-- What a session has become it remains without the administrator's key. -/
theorem Remains.step
    {session : Session}
    (remains : Remains session past moment)
    (transition : Transition moment happening output next)
    (unprivileged : Unprivileged moment.gateway.adminKey happening) :
    Remains session (past ++ [⟨moment, happening, output, next⟩]) next := by
  rcases remains with held | ⟨gone, late⟩
  · have wearing := Wearing.of_transition transition unprivileged
    unfold Remains
    rw [authorizedIn_append]
    rw [held] at wearing
    generalize authorizedIn [⟨moment, happening, output, next⟩] = value at wearing ⊢
    generalize next.gateway.desk.keeper.held = slot at wearing ⊢
    cases wearing with
    | kept => exact .inl rfl
    | expired late => exact .inr ⟨rfl, Nat.le_trans late transition.elapsed_le⟩
    | spent =>
        left
        simp only [Nat.add_assoc]
  · exact .inr
      ⟨unheld_of_transition transition unprivileged gone,
        Nat.le_trans late transition.elapsed_le⟩

/-- No key is loaded without the administrator's key. -/
theorem not_loads_of_unprivileged
    (unprivileged : Unprivileged moment.gateway.adminKey happening) :
    ¬ Loads ⟨moment, happening, output, next⟩ := by
  rintro ⟨draw, request, source, limit, rfl, _, admission⟩
  exact unprivileged (authorize_of_admitActivation admission)

end Happening

section History

variable {moment : Moment}
variable {happenings : List Happening}

/-- An invariant that happenings without the administrator's key preserve holds
after any number of them. -/
theorem run_invariant_of_unprivileged
    (Invariant : List Turn → Moment → Prop)
    (holds : Invariant [] moment)
    (unprivileged :
      ∀ happening ∈ happenings, Unprivileged moment.gateway.adminKey happening)
    (preserved :
      ∀ {past before happening output after},
        Invariant past before →
        Transition before happening output after →
        Unprivileged before.gateway.adminKey happening →
        Invariant (past ++ [⟨before, happening, output, after⟩]) after) :
    Invariant (turns moment happenings) (run moment happenings).2 := by
  refine
    (History.run_invariant
      (fun past before =>
        Invariant past before ∧
          before.gateway.adminKey = moment.gateway.adminKey)
      ⟨holds, rfl⟩ happenings ?_).1
  rintro past before happening member ⟨holdsBefore, sameKey⟩
  have transition := step_cases before happening
  have unprivilegedNow : Unprivileged before.gateway.adminKey happening := by
    rw [sameKey]
    exact unprivileged happening member
  exact
    ⟨preserved holdsBefore transition unprivilegedNow,
      transition.configuration.1.trans sameKey⟩

end History

/-- A moment with another key source and other files. -/
def Moment.withKeys
    (moment : Moment)
    (source : Option KeySource)
    (files : Files) :
    Moment :=
  { moment with
    files
    gateway := { moment.gateway with keySource := source } }

/-- Happenings that differ at most in what a key source would find and in what it
would be sealed with. -/
inductive Alike : Happening → Happening → Prop where
  | request
      (draw otherDraw : Custody.Draw)
      (request : Request) :
      Alike (.request draw request) (.request otherDraw request)
  | advance
      (milliseconds : Nat) :
      Alike (.advance milliseconds) (.advance milliseconds)
  | files
      (files otherFiles : Files) :
      Alike (.files files) (.files otherFiles)

/-- Who is not authorized is refused before the key source is looked at. -/
theorem admitActivation_of_not_authorized
    {gateway : Gateway}
    {request : Request}
    (unprivileged : authorize gateway.adminKey request ≠ .ok ()) :
    ∃ refusal,
      ∀ source,
        { gateway with keySource := source }.admitActivation request =
          .error refusal := by
  cases reading : request.readBody with
  | error refusal =>
      refine ⟨refusal, fun source => ?_⟩
      rw [admitActivation, reading]
      rfl
  | ok body =>
      cases authorizing : authorize gateway.adminKey request with
      | error refusal =>
          refine ⟨refusal, fun source => ?_⟩
          rw [admitActivation, reading]
          simp only [authorizing]
          rfl
      | ok _ => exact (unprivileged authorizing).elim

/-- Without the administrator's key a request is answered, and leaves the desk, as
with any other key source, any other files and any other draw. -/
theorem handle_withSource
    {gateway : Gateway}
    {request : Request}
    (unprivileged : authorize gateway.adminKey request ≠ .ok ())
    {source : Option KeySource}
    (configured : source.isSome = gateway.keySource.isSome)
    (around otherAround : Surroundings)
    (sameClock : otherAround.clock = around.clock) :
    { gateway with keySource := source }.handle otherAround request =
      ((gateway.handle around request).1,
        { (gateway.handle around request).2 with keySource := source }) := by
  unfold handle
  rw [sameClock]
  cases routed : Route.of request.method request.path with
  | preflight => rfl
  | health => simp only [health, configured, adminEnabled]
  | version => rfl
  | status => rfl
  | sign =>
      simp only [sign]
      cases reading : request.readBody with
      | error unread => rfl
      | ok body =>
          cases parsing : SignRequest.ofJson body with
          | error cause => simp only [parsing]
          | ok signRequest => simp only [parsing]
  | activate =>
      obtain ⟨refusal, admission⟩ := admitActivation_of_not_authorized unprivileged
      simp only [activate, admission]
  | destroy =>
      cases authorizing : authorize gateway.adminKey request with
      | error refusal => simp only [destroy, authorizing]
      | ok _ => exact (unprivileged authorizing).elim
  | unknown path => rfl

/-- Histories without the administrator's key answer alike, and leave the desk alike,
with any other key source, any other files and any other draws. -/
theorem run_withKeys
    {moment : Moment}
    {happenings otherHappenings : List Happening}
    (unprivileged :
      ∀ happening ∈ happenings, Unprivileged moment.gateway.adminKey happening)
    {source : Option KeySource}
    (configured : source.isSome = moment.gateway.keySource.isSome)
    (files : Files)
    (alike : List.Forall₂ Alike happenings otherHappenings) :
    (run (moment.withKeys source files) otherHappenings).1 =
        (run moment happenings).1 ∧
      (run (moment.withKeys source files) otherHappenings).2.gateway.desk =
        (run moment happenings).2.gateway.desk := by
  have simulated :
      ∀ before other happening otherHappening,
        ((∃ files, other = before.withKeys source files) ∧
            before.gateway.keySource.isSome = source.isSome ∧
            before.gateway.adminKey = moment.gateway.adminKey) →
        (Unprivileged moment.gateway.adminKey happening ∧
            Alike happening otherHappening) →
        id (step before happening).1 = id (step other otherHappening).1 ∧
          (∃ files,
            (step other otherHappening).2 =
              (step before happening).2.withKeys source files) ∧
          (step before happening).2.gateway.keySource.isSome = source.isSome ∧
          (step before happening).2.gateway.adminKey = moment.gateway.adminKey := by
    rintro before _ happening otherHappening ⟨⟨files, rfl⟩, sameSource, sameKey⟩
      ⟨unprivileged, alike⟩
    obtain ⟨keptKey, keptSource, _⟩ := (step_cases before happening).configuration
    rw [keptKey, keptSource]
    cases alike with
    | request draw otherDraw request =>
        rw [← sameKey] at unprivileged
        have answered :=
          handle_withSource unprivileged sameSource.symm
            ⟨before.clock, before.files, draw⟩ ⟨before.clock, files, otherDraw⟩ rfl
        simp only [step, Moment.withKeys, answered]
        exact ⟨trivial, ⟨files, rfl⟩, sameSource, sameKey⟩
    | advance milliseconds => exact ⟨rfl, ⟨files, rfl⟩, sameSource, sameKey⟩
    | files now otherNow => exact ⟨rfl, ⟨otherNow, rfl⟩, sameSource, sameKey⟩
  obtain ⟨sameAnswers, ⟨laterFiles, sameMoment⟩, _⟩ :=
    History.run_simulation _ _ id id simulated
      ⟨⟨files, rfl⟩, configured.symm, rfl⟩
      ((List.forall₂_and_left _ _).mpr ⟨unprivileged, alike⟩)
  simp only [List.map_id] at sameAnswers
  refine ⟨sameAnswers.symm, ?_⟩
  exact congrArg (·.gateway.desk) sameMoment

/--
Without the administrator's key nobody gains anything.

Take any gateway at any time and let any requests arrive, none of which presents the
administrator's key.  Where no session is held, none is held later.  A session that
is held keeps its key, its address, its end and its limit; what it has used grows by
the amounts of the orders that were answered with a signature, and it is gone only
when its end has passed.  The key source is never asked, and the answers and the
desk would be the same with any other.
-/
theorem session_kept_without_adminKey
    {moment : Moment}
    {happenings : List Happening}
    (unprivileged :
      ∀ happening ∈ happenings, Unprivileged moment.gateway.adminKey happening) :
    (moment.gateway.desk.keeper.held = none →
      (run moment happenings).2.gateway.desk.keeper.held = none) ∧
    (∀ session,
      moment.gateway.desk.keeper.held = some session →
      Remains session (turns moment happenings) (run moment happenings).2) ∧
    (∀ turn ∈ turns moment happenings, ¬ Loads turn) ∧
    (∀ source files otherHappenings,
      source.isSome = moment.gateway.keySource.isSome →
      List.Forall₂ Alike happenings otherHappenings →
      (run (moment.withKeys source files) otherHappenings).1 =
          (run moment happenings).1 ∧
        (run (moment.withKeys source files) otherHappenings).2.gateway.desk =
          (run moment happenings).2.gateway.desk) := by
  refine ⟨?_, ?_, ?_, ?_⟩
  · intro unheld
    exact
      run_invariant_of_unprivileged
        (fun _ before => before.gateway.desk.keeper.held = none)
        unheld unprivileged
        fun unheld transition unprivileged =>
          unheld_of_transition transition unprivileged unheld
  · intro session held
    exact
      run_invariant_of_unprivileged (Remains session) (.inl held) unprivileged
        fun remains transition unprivileged => remains.step transition unprivileged
  · refine
      run_invariant_of_unprivileged (fun past _ => ∀ turn ∈ past, ¬ Loads turn)
        (List.forall_mem_nil _) unprivileged ?_
    intro past before happening output after notLoaded _ unprivileged turn member
    rcases List.mem_append.mp member with earlier | last
    · exact notLoaded turn earlier
    · cases List.mem_singleton.mp last
      exact not_loads_of_unprivileged unprivileged
  · intro source files otherHappenings configured alike
    exact run_withKeys unprivileged configured files alike

set_option maxRecDepth 10000 in
/-- Somebody spends 40 of a session, tries to start another one and to end it, and is
left with 60. -/
theorem session_kept_without_adminKey_spent :
    let moment : Moment := {
      clock := Trial.clock
      files := fun _ => .ok [0x30, 0x31]
      gateway := Trial.gateway Trial.activeDesk
    }
    let body := (Trial.request "40").toJson.render.toUTF8.toList
    let happenings : List Happening := [
      .request Trial.draw ⟨"POST", "/v1/orders/sign", [], body, true⟩,
      .request Trial.draw ⟨"POST", "/v1/session/activate", [], [], true⟩,
      .request Trial.draw ⟨"DELETE", "/v1/session", [⟨"X-API-Key", [0x6B]⟩], [], true⟩,
      .advance 59999
    ]
    (∀ happening ∈ happenings,
        Unprivileged moment.gateway.adminKey happening) ∧
      authorizedIn (turns moment happenings) = 40 ∧
      ∃ session,
        moment.gateway.desk.keeper.held = some session ∧
          Remains session (turns moment happenings) (run moment happenings).2 := by
  intro moment body happenings
  have unprivileged :
      ∀ happening ∈ happenings, Unprivileged moment.gateway.adminKey happening := by
    decide +kernel
  exact ⟨unprivileged, by decide +kernel, _, rfl,
    (session_kept_without_adminKey unprivileged).2.1 _ rfl⟩

end OrderCustody.Gateway
