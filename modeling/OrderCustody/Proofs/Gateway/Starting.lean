import OrderCustody.Proofs.Decimal
import OrderCustody.Proofs.Gateway.Transition
import OrderCustody.Proofs.Order.Bounded
import OrderCustody.Proofs.Session.Likeness

namespace OrderCustody

/-!
# What comes of starting a session

Whoever wants to start a session can fail for many reasons, in front of the desk and
behind it.  As long as no key has been loaded, everything stays as it is.  A key that has
been loaded and is rejected leaves no session.  Only one that is accepted starts a
session, and nothing of the session before is in it.
-/

/-! ## At the desk -/

/-- A session as it starts with a key. -/
structure Session.Fresh
    (session : Session)
    (key : Bytes)
    (address : String)
    (expiresAt limit : Nat) : Prop where
  reveals : session.sealedKey.reveal = .ok key
  address_eq : session.address = address
  expiresAt_eq : session.expiresAt = expiresAt
  limit_eq : session.limit = limit
  used_eq : session.used = 0

/-- Why a key that was loaded starts no session: no address comes of it, or it is empty. -/
inductive Signer.Rejects (signer : Signer) (key : Bytes) : Prop where
  | underived
      {fault : SigningFault}
      (derived : signer.address key = .error fault)
  | empty
      (nothing : key = [])

namespace Desk

variable (desk : Desk) (clock : Clock) (draw : Custody.Draw) (limit : Option Nat)

/-- A key that is rejected leaves no session and no entry in the trail. -/
theorem activateFrom_of_rejected
    {key : Bytes}
    (rejected : desk.keeper.signer.Rejects key) :
    ∃ refusal,
      desk.activateFrom clock draw (.ok key) limit =
        (.error refusal, { desk with keeper := desk.keeper.cleared }) := by
  rcases taken : desk.activateFrom clock draw (.ok key) limit with ⟨result, next⟩
  cases activateFrom_cases taken with
  | refused activating =>
      cases activating with
      | rejected => exact ⟨_, rfl⟩
      | notSealed => exact ⟨_, rfl⟩
  | activated activating =>
      cases activating with
      | started derived sealing =>
          cases rejected with
          | underived failed => cases failed.symm.trans derived
          | empty nothing =>
              subst nothing
              cases sealing

/-- A key that is accepted starts a session of its own, which is reported and recorded. -/
theorem activateFrom_of_derived
    {key : Bytes}
    {address : String}
    (derived : desk.keeper.signer.address key = .ok address)
    (some : key ≠ []) :
    ∃ session,
      session.Fresh key address (clock.elapsed + desk.keeper.lifetime)
          (limit.getD desk.defaultLimit) ∧
        desk.activateFrom clock draw (.ok key) limit =
          (.ok {
              active := true
              ttlSeconds := UInt64.ofNat (desk.keeper.lifetime / 1000)
              maxValueLimit := Decimal.text (limit.getD desk.defaultLimit)
              valueUsed := "0"
              sessionAddress := address
            },
            { desk with keeper := { desk.keeper with held := .some session } }.record clock {
              kind := .sessionActivated
              address := .some address
              maxValueLimit := .some (Decimal.text (limit.getD desk.defaultLimit))
            }) := by
  obtain ⟨sealedKey, sealing, revealing⟩ :=
    Custody.SealedKey.exists_ofMaterial_eq_ok draw some
  let session : Session := {
    sealedKey
    address
    expiresAt := clock.elapsed + desk.keeper.lifetime
    limit := limit.getD desk.defaultLimit
    used := 0
  }
  refine ⟨session, ⟨revealing, rfl, rfl, rfl, rfl⟩, ?_⟩
  simp only [activateFrom, Keeper.activate, derived, sealing, SessionReport.ofStatus,
    SessionStatus.seconds, Session.status, Nat.add_sub_cancel_left, session]
  rfl

/-- A failure leaves the trail, and of the session all or nothing. -/
theorem held_of_activateFrom_error
    {desk next : Desk}
    {clock : Clock}
    {draw : Custody.Draw}
    {limit : Option Nat}
    {loaded : Except KeySource.Fault Bytes}
    {refusal : Refusal}
    (taken : desk.activateFrom clock draw loaded limit = (.error refusal, next)) :
    next.trail = desk.trail ∧
      (next.keeper.held = desk.keeper.held ∨ next.keeper.held = none) := by
  generalize failed : Except.error refusal = result at taken
  cases activateFrom_cases taken with
  | notLoaded => exact ⟨rfl, .inl rfl⟩
  | refused activating =>
      cases activating with
      | rejected => exact ⟨rfl, .inr rfl⟩
      | notSealed => exact ⟨rfl, .inr rfl⟩
  | activated => cases failed

end Desk

/-! ## In front of the desk -/

namespace Gateway

/-- The limit that a body names, if it names one. -/
inductive NamesLimit (body : Bytes) : Option Nat → Prop where
  | empty
      (nothing : body = []) :
      NamesLimit body none
  | unnamed
      (some : body ≠ [])
      (parsed : ActivationRequest.ofJson body = .ok { maxValueLimit := none }) :
      NamesLimit body none
  | named
      {text : String}
      {number : Nat}
      (some : body ≠ [])
      (parsed : ActivationRequest.ofJson body = .ok { maxValueLimit := .some text })
      (denoted : Decimal.Denotes text.toList number) :
      NamesLimit body (.some number)

/-- A request to start a session that gets as far as the key source. -/
structure Admitted
    (gateway : Gateway)
    (request : Request)
    (source : KeySource)
    (limit : Option Nat) : Prop where
  readable : request.Readable
  authorized : authorize gateway.adminKey request = .ok ()
  named : NamesLimit request.body limit
  configured : gateway.keySource = some source

/-- A text is taken for a limit exactly if it is a decimal number. -/
theorem limit_named_eq_ok_iff (text : String) (limit : Option Nat) :
    ActivationRequest.limit { maxValueLimit := some text } = .ok limit ↔
      ∃ number, Decimal.Denotes text.toList number ∧ limit = some number := by
  simp only [ActivationRequest.limit, Field.decimal, ← Decimal.parse?_eq_some_iff]
  cases Decimal.parse? text with
  | none =>
      constructor
      · exact nofun
      · rintro ⟨_, ⟨⟩, _⟩
  | some parsed =>
      constructor
      · rintro ⟨⟩
        exact ⟨parsed, rfl, rfl⟩
      · rintro ⟨_, ⟨⟩, rfl⟩
        rfl

theorem limitOfBody_eq_ok_iff (body : Bytes) (limit : Option Nat) :
    ActivationRequest.limitOfBody body = .ok limit ↔ NamesLimit body limit := by
  by_cases nothing : body = []
  · subst nothing
    constructor
    · rintro ⟨⟩
      exact .empty rfl
    · rintro (_ | ⟨some, _⟩ | ⟨some, _, _⟩)
      · rfl
      · exact absurd rfl some
      · exact absurd rfl some
  have notEmpty : body.isEmpty = false := by simpa using nothing
  cases parsing : ActivationRequest.ofJson body with
  | error cause =>
      have refused : ActivationRequest.limitOfBody body = .error (.ofJsonCause cause) := by
        simp only [ActivationRequest.limitOfBody, ActivationRequest.ofBody, notEmpty, parsing]
        rfl
      rw [refused]
      constructor
      · exact nofun
      · rintro (⟨empty⟩ | ⟨_, parsed⟩ | ⟨_, parsed, _⟩)
        · exact absurd empty nothing
        · cases parsing.symm.trans parsed
        · cases parsing.symm.trans parsed
  | ok activation =>
      have read : ActivationRequest.limitOfBody body = activation.limit := by
        simp only [ActivationRequest.limitOfBody, ActivationRequest.ofBody, notEmpty, parsing]
        rfl
      rw [read]
      constructor
      · intro limited
        rcases activation with ⟨_ | text⟩
        · cases limited
          exact .unnamed nothing parsing
        · obtain ⟨number, denoted, rfl⟩ := (limit_named_eq_ok_iff text limit).mp limited
          exact .named nothing parsing denoted
      · rintro (⟨empty⟩ | ⟨_, parsed⟩ | ⟨_, parsed, denoted⟩)
        · exact absurd empty nothing
        · cases parsing.symm.trans parsed
          rfl
        · cases parsing.symm.trans parsed
          exact (limit_named_eq_ok_iff _ _).mpr ⟨_, denoted, rfl⟩

/-- A request gets as far as the key source exactly if nothing is wrong with it. -/
theorem admitActivation_eq_ok_iff
    (gateway : Gateway)
    (request : Request)
    (source : KeySource)
    (limit : Option Nat) :
    gateway.admitActivation request = .ok (source, limit) ↔
      Admitted gateway request source limit := by
  constructor
  · intro admitted
    obtain ⟨body, reading, afterBody⟩ := bind_eq_ok admitted
    obtain ⟨readable, rfl⟩ := (Request.readBody_eq_ok_iff request body).mp reading
    obtain ⟨_, authorized, afterKey⟩ := bind_eq_ok afterBody
    obtain ⟨named, limited, settled⟩ := bind_eq_ok afterKey
    cases configured : gateway.keySource with
    | none =>
        rw [configured] at settled
        cases settled
    | some source =>
        rw [configured] at settled
        cases settled
        exact ⟨readable, authorized, (limitOfBody_eq_ok_iff _ _).mp limited, configured⟩
  · intro admitted
    have reading := Request.readBody_of_readable admitted.readable
    have limited := (limitOfBody_eq_ok_iff _ _).mpr admitted.named
    rw [admitActivation, reading, admitted.authorized, admitted.configured]
    change ActivationRequest.limitOfBody request.body >>= _ = _
    rw [limited]
    rfl

variable {gateway : Gateway} {around : Surroundings} {request : Request}

theorem Route.of_activate
    (posted : request.method = "POST")
    (asked : request.path = "/v1/session/activate") :
    Route.of request.method request.path = .activate := by
  rw [posted, asked]
  rfl

/-- A request that is not admitted is refused, and the gateway stays as it is. -/
theorem handle_of_not_admitted
    (posted : request.method = "POST")
    (asked : request.path = "/v1/session/activate")
    (refused : ∀ source limit, ¬ Admitted gateway request source limit) :
    ∃ refusal, gateway.handle around request = (.refused refusal, gateway) := by
  cases admission : gateway.admitActivation request with
  | error refusal =>
      refine ⟨refusal, ?_⟩
      simp only [handle, Route.of_activate posted asked, activate, admission,
        Response.ofResult]
  | ok admitted =>
      obtain ⟨source, limit⟩ := admitted
      exact absurd ((admitActivation_eq_ok_iff _ _ _ _).mp admission) (refused source limit)

/-- A request that is admitted is left to the desk, with the key that the source gives. -/
theorem handle_of_admitted
    {source : KeySource}
    {limit : Option Nat}
    (posted : request.method = "POST")
    (asked : request.path = "/v1/session/activate")
    (admitted : Admitted gateway request source limit) :
    let started :=
      gateway.desk.activateFrom around.clock around.draw (source.load around.files) limit
    gateway.handle around request =
      (.ofResult SessionReport.toJson started.1, { gateway with desk := started.2 }) := by
  have admission := (admitActivation_eq_ok_iff _ _ _ _).mpr admitted
  simp only [handle, Route.of_activate posted asked, activate, admission]

/-- A turn at which somebody wants to start a session and no key is loaded. -/
def KeylessTurn (turn : Turn) : Prop :=
  ∃ draw request,
    turn.input = .request draw request ∧
      request.method = "POST" ∧
      request.path = "/v1/session/activate" ∧
      ∀ source limit key,
        Admitted turn.before.gateway request source limit →
        source.load turn.before.files ≠ .ok key

/-- Nothing changes as long as no key is loaded. -/
theorem handle_of_keyless
    (posted : request.method = "POST")
    (asked : request.path = "/v1/session/activate")
    (keyless :
      ∀ source limit key,
        Admitted gateway request source limit → source.load around.files ≠ .ok key) :
    ∃ refusal, gateway.handle around request = (.refused refusal, gateway) := by
  by_cases refused : ∀ source limit, ¬ Admitted gateway request source limit
  · exact handle_of_not_admitted posted asked refused
  · obtain ⟨source, limit, admitted⟩ : ∃ source limit, Admitted gateway request source limit := by
      simpa only [not_forall, not_not] using refused
    cases loading : source.load around.files with
    | ok key => exact absurd loading (keyless source limit key admitted)
    | error fault =>
        refine ⟨.ofKeyFault fault, ?_⟩
        rw [handle_of_admitted posted asked admitted, loading]
        rfl

/-- Requests for which no key is loaded can be deleted from what happens to a gateway, and
all the others are answered as before. -/
theorem turns_without_keyless
    (moment : Moment)
    (happenings : List Happening)
    (rest : List Turn)
    (thinned : History.Thinned KeylessTurn (turns moment happenings) rest) :
    turns moment (rest.map History.Turn.input) = rest ∧
      (run moment (rest.map History.Turn.input)).2 = (run moment happenings).2 := by
  have idle :
      ∀ moment happening,
        KeylessTurn (History.turn step moment happening) →
        (step moment happening).2 = moment := by
    rintro moment _ ⟨draw, request, rfl, posted, asked, keyless⟩
    let around : Surroundings := { clock := moment.clock, files := moment.files, draw }
    obtain ⟨refusal, unchanged⟩ :
        ∃ refusal, moment.gateway.handle around request = (.refused refusal, moment.gateway) :=
      handle_of_keyless posted asked keyless
    simp only [step, around, unchanged]
  exact History.turns_of_thinned idle thinned

/--
An attempt to start a session starts one, or clears the one before, or changes nothing.

At a desk in any state: a key that cannot be loaded changes neither the session nor the
trail.  A key that is loaded and rejected, because no address comes of it or because it is
empty, leaves no session, and the trail as it was.  A key that is accepted starts a session
that has used nothing, with the limit that is asked for or else the default, for the whole
lifetime; it is what is reported and recorded.  So what is held after a failure is what
was held before or nothing.

At a gateway in any state: only a request with a body of an accepted size that names no
limit or a decimal one, made by the administrator where a key source is configured, gets
as far as loading a key.  Any other is refused, and the gateway stays as it is.  So every
request for which no key is loaded could as well not have been made.
-/
theorem activation_starts_clears_or_keeps :
    (∀ (desk : Desk) (clock : Clock) (draw : Custody.Draw) (limit : Option Nat),
      (∀ fault,
        desk.activateFrom clock draw (.error fault) limit =
          (.error (.ofKeyFault fault), desk)) ∧
      (∀ key,
        desk.keeper.signer.Rejects key →
        ∃ refusal,
          desk.activateFrom clock draw (.ok key) limit =
            (.error refusal, { desk with keeper := desk.keeper.cleared })) ∧
      (∀ key address,
        desk.keeper.signer.address key = .ok address →
        key ≠ [] →
        ∃ session,
          session.Fresh key address (clock.elapsed + desk.keeper.lifetime)
              (limit.getD desk.defaultLimit) ∧
            desk.activateFrom clock draw (.ok key) limit =
              (.ok {
                  active := true
                  ttlSeconds := UInt64.ofNat (desk.keeper.lifetime / 1000)
                  maxValueLimit := Decimal.text (limit.getD desk.defaultLimit)
                  valueUsed := "0"
                  sessionAddress := address
                },
                { desk with keeper := { desk.keeper with held := some session } }.record clock {
                  kind := .sessionActivated
                  address := some address
                  maxValueLimit := some (Decimal.text (limit.getD desk.defaultLimit))
                })) ∧
      ∀ loaded refusal next,
        desk.activateFrom clock draw loaded limit = (.error refusal, next) →
        next.trail = desk.trail ∧
          (next.keeper.held = desk.keeper.held ∨ next.keeper.held = none)) ∧
    (∀ (gateway : Gateway) (around : Surroundings) (request : Request),
      request.method = "POST" →
      request.path = "/v1/session/activate" →
      ((∀ source limit, ¬ Admitted gateway request source limit) →
        ∃ refusal, gateway.handle around request = (.refused refusal, gateway)) ∧
      ∀ source limit,
        Admitted gateway request source limit →
        let started :=
          gateway.desk.activateFrom around.clock around.draw (source.load around.files) limit
        gateway.handle around request =
          (.ofResult SessionReport.toJson started.1, { gateway with desk := started.2 })) ∧
    ∀ (moment : Moment) (happenings : List Happening) (rest : List Turn),
      History.Thinned KeylessTurn (turns moment happenings) rest →
      turns moment (rest.map History.Turn.input) = rest ∧
        (run moment (rest.map History.Turn.input)).2 = (run moment happenings).2 := by
  refine ⟨?_, ?_, turns_without_keyless⟩
  · intro desk clock draw limit
    refine ⟨fun _ => rfl, ?_, ?_, ?_⟩
    · intro key rejected
      exact desk.activateFrom_of_rejected clock draw limit rejected
    · intro key address derived some
      exact desk.activateFrom_of_derived clock draw limit derived some
    · intro loaded refusal next taken
      exact Desk.held_of_activateFrom_error taken
  · intro gateway around request posted asked
    exact ⟨handle_of_not_admitted posted asked,
      fun _ _ admitted => handle_of_admitted posted asked admitted⟩

end Gateway

end OrderCustody
