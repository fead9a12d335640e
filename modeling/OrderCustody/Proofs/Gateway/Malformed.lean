import OrderCustody.Proofs.Gateway.Transition
import OrderCustody.Proofs.Order.Bounded
import OrderCustody.Proofs.Trial

namespace OrderCustody

/-!
# Malformed requests

A request to sign is looked through before anything is asked of the session.  What is
wrong with it depends on the request alone, is told alike in every state, and changes
nothing; and whatever is not wrong in itself is never called malformed.
-/

/-- What is wrong with a request in itself: it has no order, or one that cannot be
parsed. -/
inductive SignRequest.Malformed (request : SignRequest) : String → Prop where
  | missing
      (submitted : request.order = none) :
      Malformed request "order is required"
  | unparsed
      {orderRequest : OrderRequest}
      {fault : FieldFault}
      (submitted : request.order = some orderRequest)
      (parsing : orderRequest.parse = .error fault) :
      Malformed request fault.message

/-- The bits that a number of a request may have are the bytes that it may be hashed
in. -/
theorem TypedData.exists_integerWord_iff (field : String) (number : Nat) :
    (∃ word, integerWord field number = .ok word) ↔ Decimal.bitLength number ≤ 256 := by
  rw [integerWord_eq, Decimal.bitLength_le_iff number 32]
  split_ifs with fits
  · exact ⟨fun _ => fits, fun _ => ⟨_, rfl⟩⟩
  · exact ⟨nofun, fun below => absurd below fits⟩

/-- A parsed order can be hashed, whatever the domain. -/
theorem TypedData.exists_digest_of_parse
    {orderRequest : OrderRequest}
    {order : Order}
    (parsing : orderRequest.parse = .ok order)
    (domain : Domain) :
    ∃ digest, TypedData.digest domain order = .ok digest := by
  obtain ⟨hash, hashing⟩ := exists_structHash (OrderRequest.bounded_of_parse parsing)
  exact exists_digest hashing domain

namespace Desk

/-- Checking an order fails for what is wrong with the request in itself. -/
theorem checkOrder_eq_error_iff
    (domain : TypedData.Domain)
    (request : SignRequest)
    (refusal : Refusal) :
    checkOrder domain request = .error refusal ↔
      ∃ detail, request.Malformed detail ∧ refusal = .invalidInput detail := by
  cases submitted : request.order with
  | none =>
      simp only [checkOrder, submitted, Except.error.injEq]
      constructor
      · rintro rfl
        exact ⟨_, .missing submitted, rfl⟩
      · rintro ⟨_, malformed, rfl⟩
        cases malformed with
        | missing => rfl
        | unparsed submittedSome => cases submitted.symm.trans submittedSome
  | some orderRequest =>
      cases parsing : orderRequest.parse with
      | error fault =>
          simp only [checkOrder, submitted, parsing, Except.error.injEq]
          constructor
          · rintro rfl
            exact ⟨_, .unparsed submitted parsing, rfl⟩
          · rintro ⟨_, malformed, rfl⟩
            cases malformed with
            | missing unsubmitted => cases submitted.symm.trans unsubmitted
            | unparsed same parsingSame =>
                cases submitted.symm.trans same
                cases parsing.symm.trans parsingSame
                rfl
      | ok order =>
          obtain ⟨digest, hashing⟩ := TypedData.exists_digest_of_parse parsing domain
          simp only [checkOrder, submitted, parsing, hashing]
          constructor
          · exact nofun
          · rintro ⟨_, malformed, -⟩
            cases malformed with
            | missing unsubmitted => cases submitted.symm.trans unsubmitted
            | unparsed same parsingSame =>
                cases submitted.symm.trans same
                cases parsing.symm.trans parsingSame

/-- No fault of a session operation is told as malformed input. -/
theorem ofSessionFault_ne_invalidInput (fault : SessionFault) (detail : String) :
    Refusal.ofSessionFault fault ≠ .invalidInput detail := by
  cases fault <;> exact nofun

/-- A malformed request is refused for what is wrong with it, and the desk stays as it
is. -/
theorem signOrder_of_malformed
    {request : SignRequest}
    {detail : String}
    (malformed : request.Malformed detail)
    (desk : Desk)
    (clock : Clock) :
    desk.signOrder clock request = (.error (.invalidInput detail), desk) := by
  have checking : checkOrder desk.domain request = .error (.invalidInput detail) :=
    (checkOrder_eq_error_iff desk.domain request _).mpr ⟨detail, malformed, rfl⟩
  rw [signOrder, checking]

/-- Only malformed requests are told to be so. -/
theorem Signing.malformed_of_invalidInput
    {desk next : Desk}
    {clock : Clock}
    {request : SignRequest}
    {detail : String}
    (signing : Signing desk clock request (.error (.invalidInput detail)) next) :
    request.Malformed detail := by
  generalize refused : Except.error (Refusal.invalidInput detail) = result at signing
  cases signing with
  | malformed checking =>
      cases refused
      obtain ⟨_, malformed, ⟨⟩⟩ := (checkOrder_eq_error_iff _ request _).mp checking
      exact malformed
  | refused =>
      exact absurd (Except.error.inj refused).symm (ofSessionFault_ne_invalidInput _ detail)
  | signed => cases refused

end Desk

namespace Gateway

/-- What is wrong with a request for a signature in itself: its body breaks off or is too
large, it is not the JSON of a request to sign, or the request to sign is malformed. -/
inductive Request.Malformed (request : Request) : String → Prop where
  | unreadable
      (unreadable : ¬ request.Readable) :
      Malformed request
        ("request body unreadable or larger than " ++ Decimal.text maxBodyBytes ++ " bytes")
  | notJson
      {cause : Json.Cause}
      (readable : request.Readable)
      (parsing : SignRequest.ofJson request.body = .error cause) :
      Malformed request ("JSON error: " ++ cause.message)
  | order
      {signRequest : SignRequest}
      {detail : String}
      (readable : request.Readable)
      (parsing : SignRequest.ofJson request.body = .ok signRequest)
      (malformed : signRequest.Malformed detail) :
      Malformed request detail

/-- A malformed request for a signature is refused for what is wrong with it, and the
gateway stays as it is. -/
theorem sign_of_malformed
    {request : Request}
    {detail : String}
    (malformed : request.Malformed detail)
    (gateway : Gateway)
    (clock : Clock) :
    gateway.sign clock request = (.error (.invalidInput detail), gateway) := by
  cases malformed with
  | unreadable unreadable =>
      simp only [sign, Request.readBody, if_neg unreadable]
  | notJson readable parsing =>
      simp only [sign, Request.readBody_of_readable readable, parsing]
      rfl
  | order readable parsing malformed =>
      simp only [sign, Request.readBody_of_readable readable, parsing,
        Desk.signOrder_of_malformed malformed]

/-- The status of malformed input is given to nothing else. -/
theorem eq_invalidInput_of_status
    {refusal : Refusal}
    (isMalformed : refusal.status = 400) :
    ∃ detail, refusal = .invalidInput detail := by
  cases refusal with
  | invalidInput detail => exact ⟨detail, rfl⟩
  | noActiveSession | sessionExpired | valueLimitExceeded | signingFailure | unauthorized
    | notFound | keySource | config | internal => cases isMalformed

/-- Only malformed requests for a signature are answered with the status of malformed
input. -/
theorem Answering.malformed_of_status
    {gateway next : Gateway}
    {around : Surroundings}
    {request : Request}
    {response : Response}
    (answering : Answering gateway around request response next)
    (asked : Route.of request.method request.path = .sign)
    (isMalformed : response.status = 400) :
    ∃ detail, request.Malformed detail := by
  by_cases readable : request.Readable
  swap
  · exact ⟨_, .unreadable readable⟩
  cases answering with
  | unreadable _ reading =>
      cases (Request.readBody_of_readable readable).symm.trans reading
  | unparsed _ reading parsing =>
      cases Request.readBody_eq_ok reading
      exact ⟨_, .notJson readable parsing⟩
  | @sign _ _ result _ _ reading parsing signing =>
      cases Request.readBody_eq_ok reading
      cases result with
      | ok => cases isMalformed
      | error refusal =>
          obtain ⟨detail, rfl⟩ := eq_invalidInput_of_status isMalformed
          exact ⟨detail, .order readable parsing signing.malformed_of_invalidInput⟩
  | preflight other | health other | version other | status other | notAdmitted other
    | activate other | notAuthorized other | destroy other | unknown other =>
      cases asked.symm.trans other

/-- A turn at which a malformed request for a signature arrives. -/
def MalformedTurn (turn : Turn) : Prop :=
  ∃ draw request detail,
    turn.input = .request draw request ∧
      request.method = "POST" ∧
      request.path = "/v1/orders/sign" ∧
      request.Malformed detail

theorem handle_of_malformed
    {request : Request}
    {detail : String}
    (posted : request.method = "POST")
    (asked : request.path = "/v1/orders/sign")
    (malformed : request.Malformed detail)
    (gateway : Gateway)
    (around : Surroundings) :
    gateway.handle around request = (.refused (.invalidInput detail), gateway) := by
  have routed : Route.of request.method request.path = .sign :=
    (Route.of_eq_sign_iff _ _).mpr ⟨posted, asked⟩
  simp only [handle, routed, sign_of_malformed malformed, Response.ofResult]

/-- Malformed requests for a signature can be deleted from what happens to a gateway, and
all the others are answered as before. -/
theorem turns_without_malformed
    (moment : Moment)
    (happenings : List Happening)
    (rest : List Turn)
    (thinned : History.Thinned MalformedTurn (turns moment happenings) rest) :
    turns moment (rest.map History.Turn.input) = rest ∧
      (run moment (rest.map History.Turn.input)).2 = (run moment happenings).2 := by
  have idle :
      ∀ moment happening,
        MalformedTurn (History.turn step moment happening) →
        (step moment happening).2 = moment := by
    rintro moment _ ⟨draw, request, detail, rfl, posted, asked, malformed⟩
    simp only [step, handle_of_malformed posted asked malformed]
  exact History.turns_of_thinned idle thinned

/--
Malformed orders never reach the session, and others never look malformed.

In every state of a desk, a request to sign is refused as invalid input exactly if its
order is missing or cannot be parsed, with a detail that the request alone determines;
the desk is left as it is, with whatever session it holds and every line of its trail.
No parsed order fails to be hashed, since the bits that its numbers may have are the
bytes they may be hashed in, and no failure of the session is told as invalid input.

Over HTTP a request for a signature gets status 400 exactly if its body breaks off, is
too large, is no JSON of a request to sign, or holds a malformed one.  The answer is the
same in every state, and the gateway is left as it is, so that everything else that happens
to it goes on as if the request had not been made.
-/
theorem malformed_never_reach_session :
    (∀ (request : SignRequest) (detail : String) (desk : Desk) (clock : Clock),
      ((desk.signOrder clock request).1 = .error (.invalidInput detail) ↔
        request.Malformed detail) ∧
      (request.Malformed detail → (desk.signOrder clock request).2 = desk)) ∧
    (∀ (orderRequest : OrderRequest) (order : Order),
      orderRequest.parse = .ok order →
      ∀ domain, ∃ digest, TypedData.digest domain order = .ok digest) ∧
    (∀ (field : String) (number : Nat),
      (∃ word, TypedData.integerWord field number = .ok word) ↔
        Decimal.bitLength number ≤ 256) ∧
    (∀ (fault : SessionFault) (detail : String),
      Refusal.ofSessionFault fault ≠ .invalidInput detail) ∧
    (∀ request : Request,
      request.method = "POST" →
      request.path = "/v1/orders/sign" →
      ∀ (gateway : Gateway) (around : Surroundings),
        ((gateway.handle around request).1.status = 400 ↔
          ∃ detail, request.Malformed detail) ∧
        ∀ detail,
          request.Malformed detail →
          gateway.handle around request =
            ({ status := 400
               headers := Response.jsonHeaders
               body :=
                (Json.Value.record
                  [("code", .text "INVALID_INPUT"),
                    ("error", .text ("Invalid input: " ++ detail))]).render },
              gateway)) ∧
    ∀ (moment : Moment) (happenings : List Happening) (rest : List Turn),
      History.Thinned MalformedTurn (turns moment happenings) rest →
      turns moment (rest.map History.Turn.input) = rest ∧
        (run moment (rest.map History.Turn.input)).2 = (run moment happenings).2 := by
  refine ⟨?_, ?_, TypedData.exists_integerWord_iff, Desk.ofSessionFault_ne_invalidInput, ?_,
    turns_without_malformed⟩
  · intro request detail desk clock
    refine ⟨⟨?_, ?_⟩, ?_⟩
    · intro refused
      have signing := Desk.signOrder_cases (Prod.ext refused rfl)
      exact signing.malformed_of_invalidInput
    · intro malformed
      rw [Desk.signOrder_of_malformed malformed]
    · intro malformed
      rw [Desk.signOrder_of_malformed malformed]
  · intro orderRequest order parsing domain
    exact TypedData.exists_digest_of_parse parsing domain
  · intro request posted asked gateway around
    refine ⟨⟨?_, ?_⟩, ?_⟩
    · intro isMalformed
      have routed : Route.of request.method request.path = .sign :=
        (Route.of_eq_sign_iff _ _).mpr ⟨posted, asked⟩
      exact (handle_cases rfl).malformed_of_status routed isMalformed
    · rintro ⟨detail, malformed⟩
      rw [handle_of_malformed posted asked malformed]
      rfl
    · intro detail malformed
      rw [handle_of_malformed posted asked malformed]
      rfl

set_option maxRecDepth 10000 in
/-- While an expired session lingers, a request without an order is told so, and one with
an order is told of the expiry. -/
example :
    let late := Trial.clock.advance 60000
    (Trial.activeDesk.signOrder late ⟨none⟩).1 =
        .error (.invalidInput "order is required") ∧
      (Trial.activeDesk.signOrder late (Trial.request "1")).1 = .error .sessionExpired := by
  decide +kernel

end Gateway

end OrderCustody
