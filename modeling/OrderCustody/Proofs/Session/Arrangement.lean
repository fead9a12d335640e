import OrderCustody.Proofs.Session.Spending

namespace OrderCustody

/-!
# Requests in any order

What a session grants is a sum, so requests that fit its budget together are all granted,
in whatever order they come, and it makes no difference which.  If they do not fit, some
of them are refused in every order.  Which ones does depend on the order, but the limit
holds in all of them.
-/

/-- The signature of a digest with the key of a session, if the key opens and the signer
makes one. -/
def Session.signature? (session : Session) (signer : Signer) (digest : Digest) :
    Option Signature :=
  session.sealedKey.reveal.toOption.bind fun key => (signer.sign key digest).toOption

/-- The session with a value on its account. -/
def Session.charged (session : Session) (value : Nat) : Session :=
  { session with used := session.used + value }

theorem Session.charged_charged (session : Session) (first second : Nat) :
    (session.charged first).charged second = session.charged (first + second) := by
  simp only [charged, Nat.add_assoc]

namespace Keeper

/-! ## Arrangements -/

/-- A request to sign. -/
structure Request where
  value : Nat
  digest : Digest
  deriving DecidableEq

/-- The request that an operation makes. -/
def request? : Operation → Option Request
  | .sign value digest => some { value, digest }
  | _ => none

/-- The requests among operations, in their order. -/
def requests (operations : List Operation) : List Request :=
  operations.filterMap request?

/-- The value of requests altogether. -/
def totalValue : List Request → Nat
  | [] => 0
  | request :: rest => request.value + totalValue rest

/-- How long an operation takes. -/
def Operation.duration : Operation → Nat
  | .advance milliseconds => milliseconds
  | _ => 0

/-- How long operations take altogether. -/
def totalDuration : List Operation → Nat
  | [] => 0
  | operation :: rest => operation.duration + totalDuration rest

/-- Whether an operation neither starts a session nor destroys one. -/
def Operation.Calm : Operation → Prop
  | .activate _ _ _ => False
  | .destroy => False
  | _ => True

/-- Requests as they are issued in some order before a deadline.  Time may pass between
them, and the session may be looked at. -/
structure Arranges
    (issued : List Request)
    (now deadline : Nat)
    (operations : List Operation) :
    Prop where
  calm : ∀ operation ∈ operations, operation.Calm
  permutes : (requests operations).Perm issued
  inTime : now + totalDuration operations < deadline

/-- A request that was granted, with the signature and the address it was given. -/
structure Receipt where
  request : Request
  signature : Signature
  address : String
  deriving DecidableEq

/-- The receipt that a turn gives. -/
def receipt? (turn : Turn) : Option Receipt :=
  match turn.input, turn.output with
  | .sign value digest, .signed (.ok made) =>
      some {
        request := { value, digest }
        signature := made.signature
        address := made.address
      }
  | _, _ => none

/-- The receipts that turns give, in their order. -/
def receipts (turns : List Turn) : List Receipt :=
  turns.filterMap receipt?

/-- Whether every request among turns is granted. -/
def AllGranted (turns : List Turn) : Prop :=
  ∀ turn ∈ turns, ∀ value digest,
    turn.input = .sign value digest → ∃ made, turn.output = .signed (.ok made)

/-- Whether a turn refuses a value that is over the limit. -/
def RefusesExcess (turn : Turn) : Prop :=
  ∃ requested remaining,
    turn.output = .signed (.error (.valueLimitExceeded requested remaining))

theorem requests_cons_of_none
    {operation : Operation}
    (noRequest : request? operation = none)
    (rest : List Operation) :
    requests (operation :: rest) = requests rest :=
  List.filterMap_cons_none noRequest

/-- Without a request there is no receipt. -/
theorem receipt?_of_none
    {turn : Turn}
    (noRequest : request? turn.input = none) :
    receipt? turn = none := by
  obtain ⟨before, operation, outcome, after⟩ := turn
  cases operation with
  | sign => cases noRequest
  | activate | observe | isActive | destroy | advance => rfl

theorem totalValue_perm
    {first second : List Request}
    (permutation : first.Perm second) :
    totalValue first = totalValue second := by
  induction permutation with
  | nil => rfl
  | cons request _ inductionHypothesis =>
      exact congrArg (request.value + ·) inductionHypothesis
  | swap first second rest => exact Nat.add_left_comm _ _ _
  | trans _ _ firstSame secondSame => exact firstSame.trans secondSame

/-! ## One operation -/

/-- The receipt of a request under a session, if it can be signed. -/
def receiptOf? (session : Session) (signer : Signer) (request : Request) : Option Receipt :=
  (session.signature? signer request.digest).map fun signature => {
    request
    signature
    address := session.address
  }

/-- What a request is given does not depend on what was given before it. -/
theorem receiptOf?_charged (session : Session) (signer : Signer) (value : Nat) :
    receiptOf? (session.charged value) signer = receiptOf? session signer :=
  rfl

/-- What a calm operation comes to under a live session that can sign, and how the session
goes on. -/
inductive Serving (session : Session) (signer : Signer) :
    Operation → Outcome → Session → Prop where
  | granted
      {value : Nat}
      {digest : Digest}
      {signature : Signature}
      (within : session.used + value ≤ session.limit)
      (making : session.signature? signer digest = some signature) :
      Serving session signer (.sign value digest)
        (.signed (.ok {
          signature
          address := session.address
          used := session.used + value
        }))
        (session.charged value)
  | refused
      {value : Nat}
      {digest : Digest}
      (excess : session.limit < session.used + value) :
      Serving session signer (.sign value digest)
        (.signed (.error (.valueLimitExceeded value session.budget))) session
  | idle
      {operation : Operation}
      {outcome : Outcome}
      (noRequest : request? operation = none) :
      Serving session signer operation outcome session

/-- A keeper with a session in the place of the one that it held. -/
def holding (keeper : Keeper) (session : Session) : Keeper :=
  { keeper with held := some session }

theorem Transition.serving
    {moment next : Moment}
    {operation : Operation}
    {outcome : Outcome}
    (transition : Transition moment operation outcome next)
    {session : Session}
    (held : moment.keeper.held = some session)
    (live : moment.now < session.expiresAt)
    (calm : operation.Calm)
    (able :
      ∀ request ∈ request? operation,
        (session.signature? moment.keeper.signer request.digest).isSome) :
    ∃ after,
      Serving session moment.keeper.signer operation outcome after ∧
        next = {
          now := moment.now + operation.duration
          keeper := moment.keeper.holding after
        } := by
  have same : moment.keeper = moment.keeper.holding session := by
    rw [holding, ← held]
  cases transition with
  | activate => exact calm.elim
  | destroy => exact calm.elim
  | isActive => exact ⟨session, .idle rfl, by rw [← same]; rfl⟩
  | advance milliseconds => exact ⟨session, .idle rfl, by rw [← same]; rfl⟩
  | observe observing =>
      cases observing with
      | vacant unheld => cases unheld.symm.trans held
      | expired heldLate late =>
          cases heldLate.symm.trans held
          exact absurd live (Nat.not_lt.mpr late)
      | live => exact ⟨session, .idle rfl, by rw [← same]; rfl⟩
  | @sign value digest _ _ signing =>
      obtain ⟨signature, making⟩ := Option.isSome_iff_exists.mp (able ⟨value, digest⟩ rfl)
      cases signing with
      | vacant unheld => cases unheld.symm.trans held
      | expired heldLate late =>
          cases heldLate.symm.trans held
          exact absurd live (Nat.not_lt.mpr late)
      | overLimit heldLive _ excess =>
          cases heldLive.symm.trans held
          exact ⟨session, .refused excess, by rw [← same]; rfl⟩
      | notRevealed heldLive _ _ notRevealing =>
          cases heldLive.symm.trans held
          simp [Session.signature?, notRevealing, Except.toOption] at making
      | failed heldLive _ _ revealing failing =>
          cases heldLive.symm.trans held
          simp [Session.signature?, revealing, failing, Except.toOption] at making
      | signed heldLive _ within revealing signing =>
          cases heldLive.symm.trans held
          refine ⟨_, .granted within ?_, rfl⟩
          simp [Session.signature?, revealing, signing, Except.toOption]

/-- Only the value used changes. -/
theorem Serving.eq_used
    {session after : Session}
    {signer : Signer}
    {operation : Operation}
    {outcome : Outcome}
    (serving : Serving session signer operation outcome after) :
    after = { session with used := after.used } := by
  cases serving <;> rfl

/-! ## Many operations -/

/-- What turns come to under a live session, and how the session goes on. -/
inductive Served (signer : Signer) : Session → List Turn → Session → Prop where
  | done
      {session : Session} :
      Served signer session [] session
  | next
      {session after final : Session}
      {moment later : Moment}
      {operation : Operation}
      {outcome : Outcome}
      {rest : List Turn}
      (serving : Serving session signer operation outcome after)
      (served : Served signer after rest final) :
      Served signer session (⟨moment, operation, outcome, later⟩ :: rest) final

/-- As long as it lives, a session that can sign serves all calm operations: the session
that goes on has the key, the address and the deadline of the one before. -/
theorem served_turns
    {moment : Moment}
    {operations : List Operation}
    {session : Session}
    (held : moment.keeper.held = some session)
    (calm : ∀ operation ∈ operations, operation.Calm)
    (inTime : moment.now + totalDuration operations < session.expiresAt)
    (able :
      ∀ request ∈ requests operations,
        (session.signature? moment.keeper.signer request.digest).isSome) :
    ∃ final,
      Served moment.keeper.signer session (turns moment operations) final ∧
        (run moment operations).2.keeper = moment.keeper.holding final := by
  induction operations generalizing moment session with
  | nil =>
      refine ⟨session, .done, ?_⟩
      rw [holding, ← held]
      rfl
  | cons operation operations inductionHypothesis =>
      have live : moment.now < session.expiresAt :=
        Nat.lt_of_le_of_lt (Nat.le_add_right _ _) inTime
      have ableNow :
          ∀ request ∈ request? operation,
            (session.signature? moment.keeper.signer request.digest).isSome :=
        fun request made =>
          able request (List.mem_filterMap.mpr ⟨operation, List.mem_cons_self, made⟩)
      have ableLater :
          ∀ request ∈ requests operations,
            (session.signature? moment.keeper.signer request.digest).isSome := by
        intro request member
        obtain ⟨later, inLater, made⟩ := List.mem_filterMap.mp member
        exact able request
          (List.mem_filterMap.mpr ⟨later, List.mem_cons_of_mem _ inLater, made⟩)
      obtain ⟨after, serving, next⟩ :=
        (step_cases moment operation).serving held live (calm _ List.mem_cons_self) ableNow
      have goesOn := serving.eq_used
      have heldNext : (step moment operation).2.keeper.held = some after := by
        rw [next]
        rfl
      have sameSigner : (step moment operation).2.keeper.signer = moment.keeper.signer := by
        rw [next]
        rfl
      have inTimeLater :
          (step moment operation).2.now + totalDuration operations < after.expiresAt := by
        rw [next, goesOn]
        exact Nat.add_assoc _ _ _ ▸ inTime
      obtain ⟨final, served, atEnd⟩ :=
        inductionHypothesis heldNext
          (fun later member => calm later (List.mem_cons_of_mem _ member)) inTimeLater
          (by rw [sameSigner, goesOn]; exact ableLater)
      refine ⟨final, .next serving (sameSigner ▸ served), atEnd.trans ?_⟩
      rw [next]
      rfl

namespace Served

variable
  {signer : Signer}
  {session final : Session}
  {taken : List Turn}

/-- The session stays within its limit, and keeps it. -/
theorem used_le_limit
    (served : Served signer session taken final)
    (withinLimit : session.used ≤ session.limit) :
    final.used ≤ final.limit ∧ final.limit = session.limit := by
  induction served with
  | done => exact ⟨withinLimit, rfl⟩
  | next serving _ inductionHypothesis =>
      cases serving with
      | granted within => exact inductionHypothesis within
      | refused | idle => exact inductionHypothesis withinLimit

/-- Requests that fit are all granted, each as if it were the only one, and they are all
on the account. -/
theorem of_fitting
    (served : Served signer session taken final)
    (fitting :
      session.used + totalValue (requests (taken.map History.Turn.input)) ≤ session.limit) :
    AllGranted taken ∧
      receipts taken =
        (requests (taken.map History.Turn.input)).filterMap (receiptOf? session signer) ∧
      final = session.charged (totalValue (requests (taken.map History.Turn.input))) := by
  induction served with
  | done => exact ⟨List.forall_mem_nil _, rfl, rfl⟩
  | @next session _ _ _ _ _ _ rest serving _ inductionHypothesis =>
      cases serving with
      | @granted value digest signature within making =>
          have fittingLater :
              session.used + value + totalValue (requests (rest.map History.Turn.input)) ≤
                session.limit :=
            Nat.add_assoc _ _ _ ▸ fitting
          obtain ⟨granted, receipted, atEnd⟩ := inductionHypothesis fittingLater
          have receipt :
              receiptOf? session signer { value, digest } =
                some {
                  request := { value, digest }
                  signature
                  address := session.address
                } :=
            congrArg (Option.map _) making
          rw [receiptOf?_charged] at receipted
          refine ⟨List.forall_mem_cons.mpr ⟨fun _ _ _ => ⟨_, rfl⟩, granted⟩, ?_, ?_⟩
          · refine (congrArg (List.cons _) receipted).trans ?_
            exact (List.filterMap_cons_some receipt).symm
          · exact atEnd.trans (session.charged_charged value _)
      | refused excess =>
          have within := Nat.le_trans (Nat.add_le_add_left (Nat.le_add_right _ _) _) fitting
          exact absurd within (Nat.not_le.mpr excess)
      | idle noRequest =>
          rw [List.map_cons, requests_cons_of_none noRequest] at fitting ⊢
          obtain ⟨granted, receipted, atEnd⟩ := inductionHypothesis fitting
          refine ⟨List.forall_mem_cons.mpr ⟨?_, granted⟩, ?_, atEnd⟩
          · rintro value digest rfl
            cases noRequest
          · rw [← receipted, receipts, List.filterMap_cons_none (receipt?_of_none noRequest)]
            rfl

/-- If nothing is refused for its value, all requests fit. -/
theorem fitting_of_not_refuses
    (served : Served signer session taken final)
    (withinLimit : session.used ≤ session.limit)
    (notRefused : ∀ turn ∈ taken, ¬ RefusesExcess turn) :
    session.used + totalValue (requests (taken.map History.Turn.input)) ≤ session.limit := by
  induction served with
  | done => exact withinLimit
  | next serving _ inductionHypothesis =>
      have later := fun turn member => notRefused turn (List.mem_cons_of_mem _ member)
      cases serving with
      | granted within =>
          have fits := inductionHypothesis within later
          exact Nat.add_assoc _ _ _ ▸ fits
      | refused excess => exact absurd ⟨_, _, rfl⟩ (notRefused _ List.mem_cons_self)
      | idle noRequest =>
          rw [List.map_cons, requests_cons_of_none noRequest]
          exact inductionHypothesis withinLimit later

end Served

/--
Signing in any order, in every state that a history of a keeper leads to, under a live
session with whose key the signer makes a signature of every digest asked for.

If the requests fit what is left of the limit, then whichever two orders they are issued in
before the deadline, all are granted in both, each with the same signature and address, and
the keeper is the same afterwards.  If they do not fit, then in every order one of them is
refused for its value, and what is used in the end is within the limit all the same.
-/
theorem fitting_requests_commute
    (signer : Signer)
    (lifetime start : Nat)
    (earlier : List Operation)
    {moment : Moment}
    (reached : moment = (run (.vacant signer lifetime start) earlier).2)
    {session : Session}
    (held : moment.keeper.held = some session)
    {issued : List Request}
    (able : ∀ request ∈ issued, (session.signature? signer request.digest).isSome) :
    (totalValue issued ≤ session.budget →
      ∀ first second,
        Arranges issued moment.now session.expiresAt first →
        Arranges issued moment.now session.expiresAt second →
        AllGranted (turns moment first) ∧
          AllGranted (turns moment second) ∧
          (receipts (turns moment first)).Perm (receipts (turns moment second)) ∧
          (run moment first).2.keeper = (run moment second).2.keeper) ∧
    (session.budget < totalValue issued →
      ∀ operations,
        Arranges issued moment.now session.expiresAt operations →
        (∃ turn ∈ turns moment operations, RefusesExcess turn) ∧
          ∃ final,
            (run moment operations).2.keeper.held = some final ∧
              final.limit = session.limit ∧
              final.used ≤ session.limit) := by
  have sameSigner : moment.keeper.signer = signer := by
    subst reached
    exact
      History.run_keeps (·.keeper.signer)
        (fun moment operation => (step_cases moment operation).configuration.1)
        (.vacant signer lifetime start) earlier
  have withinLimit : session.used ≤ session.limit := by
    subst reached
    exact (Accounted.run signer lifetime start earlier).used_le_limit held
  have serves :
      ∀ operations,
        Arranges issued moment.now session.expiresAt operations →
        ∃ final,
          Served signer session (turns moment operations) final ∧
            (run moment operations).2.keeper = moment.keeper.holding final ∧
            (requests ((turns moment operations).map History.Turn.input)).Perm issued := by
    intro operations arranges
    have permutes := arranges.permutes
    obtain ⟨final, served, atEnd⟩ :=
      served_turns held arranges.calm arranges.inTime fun request member =>
        sameSigner ▸ able request (permutes.mem_iff.mp member)
    refine ⟨final, sameSigner ▸ served, atEnd, ?_⟩
    rwa [turns, History.map_input_turns]
  constructor
  · intro fits first second arrangesFirst arrangesSecond
    obtain ⟨final, served, atEnd, permutes⟩ := serves first arrangesFirst
    obtain ⟨otherFinal, otherServed, otherAtEnd, otherPermutes⟩ :=
      serves second arrangesSecond
    have fitting {asked : List Request} (permutes : asked.Perm issued) :
        session.used + totalValue asked ≤ session.limit := by
      rw [totalValue_perm permutes]
      exact Nat.add_le_of_le_sub' withinLimit fits
    obtain ⟨granted, receipted, charged⟩ := served.of_fitting (fitting permutes)
    obtain ⟨otherGranted, otherReceipted, otherCharged⟩ :=
      otherServed.of_fitting (fitting otherPermutes)
    refine ⟨granted, otherGranted, ?_, ?_⟩
    · rw [receipted, otherReceipted]
      exact (permutes.trans otherPermutes.symm).filterMap _
    · rw [atEnd, otherAtEnd, charged, otherCharged, totalValue_perm permutes,
        totalValue_perm otherPermutes]
  · intro exceeds operations arranges
    obtain ⟨final, served, atEnd, permutes⟩ := serves operations arranges
    obtain ⟨finalWithin, sameLimit⟩ := served.used_le_limit withinLimit
    refine ⟨?_, final, by rw [atEnd]; rfl, sameLimit, sameLimit ▸ finalWithin⟩
    by_contra notRefused
    have fits :=
      served.fitting_of_not_refuses withinLimit fun turn member refuses =>
        notRefused ⟨turn, member, refuses⟩
    rw [totalValue_perm permutes] at fits
    exact absurd (Nat.le_sub_of_add_le' fits) (Nat.not_le.mpr exceeds)

/-- Two requests that take all of the limit, one of them in the last moment, or the other
way round with a look at the session in between. -/
theorem fitting_requests_commute_exact_fit :
    let earlier : List Operation := [.activate Trial.draw [1] 100]
    let moment := (run (.vacant Trial.signer 60000 0) earlier).2
    let issued : List Request := [⟨70, .zero 32⟩, ⟨30, .zero 32⟩]
    let first : List Operation := [.sign 70 (.zero 32), .advance 59999, .sign 30 (.zero 32)]
    let second : List Operation := [.sign 30 (.zero 32), .observe, .sign 70 (.zero 32)]
    ∃ session,
      moment.keeper.held = some session ∧
        (∀ request ∈ issued,
          (session.signature? Trial.signer request.digest).isSome) ∧
        totalValue issued = session.budget ∧
        Arranges issued moment.now session.expiresAt first ∧
        Arranges issued moment.now session.expiresAt second ∧
        AllGranted (turns moment first) ∧
        (run moment first).2.keeper = (run moment second).2.keeper := by
  intro earlier moment issued first second
  obtain ⟨sealedKey, sealing, revealing⟩ :=
    Custody.SealedKey.exists_ofMaterial_eq_ok Trial.draw (List.cons_ne_nil (1 : UInt8) [])
  have reached : moment = (run (.vacant Trial.signer 60000 0) earlier).2 := rfl
  have early : moment.now = 0 := rfl
  have held : moment.keeper.held = some ⟨sealedKey, "0x00", 60000, 100, 0⟩ := by
    cases sealing
    rfl
  clear_value moment
  have able :
      ∀ request ∈ issued,
        (Session.signature? ⟨sealedKey, "0x00", 60000, 100, 0⟩ Trial.signer
          request.digest).isSome := by
    intro request _
    rw [Session.signature?, revealing]
    rfl
  have arrangesFirst : Arranges issued moment.now 60000 first := by
    refine ⟨?_, .refl _, by rw [early]; decide⟩
    simp [first, Operation.Calm]
  have arrangesSecond : Arranges issued moment.now 60000 second := by
    refine ⟨?_, .swap _ _ _, by rw [early]; decide⟩
    simp [second, Operation.Calm]
  obtain ⟨granted, -, -, same⟩ :=
    (fitting_requests_commute Trial.signer 60000 0 earlier reached held able).1
      (Nat.le_of_eq rfl) first second arrangesFirst arrangesSecond
  exact ⟨_, held, able, rfl, arrangesFirst, arrangesSecond, granted, same⟩

end Keeper

end OrderCustody
