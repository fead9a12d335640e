import OrderCustody.Proofs.Session.Spending
import OrderCustody.Proofs.Trial

namespace OrderCustody.Keeper

/-!
# Requests to sign

What a request to sign comes to is settled by three things alone: what is held, the
time, and what the signer makes of the key that was sealed.  A request that fails costs
nothing, so that a history without it goes on as it did.
-/

/-- The key that a turn puts into custody. -/
def sealed? (turn : Turn) : Option Bytes :=
  match turn.input, turn.output with
  | .activate _ key _, .activated (.ok _) => some key
  | _, _ => none

/-- The key of the session that was started last. -/
def latestKey? (past : List Turn) : Option Bytes :=
  (past.filterMap sealed?).getLast?

/-- What a request is answered under a live session that seals a key. -/
structure Decided
    (signer : Signer)
    (session : Session)
    (key : Bytes)
    (value : Nat)
    (digest : Digest)
    (answer : Except SessionFault SessionSignature) :
    Prop where
  overLimit :
    ∀ requested remaining,
      answer = .error (.valueLimitExceeded requested remaining) ↔
        session.limit < session.used + value ∧
          requested = value ∧ remaining = session.limit - session.used
  /-- What remains is what was not used of the limit, and it is not enough. -/
  short :
    ∀ requested remaining,
      answer = .error (.valueLimitExceeded requested remaining) →
      session.used + remaining = session.limit ∧ remaining < requested
  failed :
    ∀ fault,
      answer = .error (.signingFailure fault) ↔
        session.used + value ≤ session.limit ∧ signer.sign key digest = .error fault
  signed :
    ∀ made,
      answer = .ok made ↔
        session.used + value ≤ session.limit ∧
          ∃ signature,
            signer.sign key digest = .ok signature ∧
              made = {
                signature
                address := session.address
                used := session.used + value
              }

/-- What a request is answered by a keeper and what it leaves behind, given the key that
was put into custody last. -/
structure Settled
    (keeper : Keeper)
    (custody : Option Bytes)
    (now value : Nat)
    (digest : Digest)
    (answer : Except SessionFault SessionSignature)
    (next : Keeper) :
    Prop where
  noSession : answer = .error .noActiveSession ↔ keeper.held = none
  expired :
    answer = .error .sessionExpired ↔
      ∃ session, keeper.held = some session ∧ session.expiresAt ≤ now
  live :
    ∀ session,
      keeper.held = some session →
      now < session.expiresAt →
      ∃ key,
        custody = some key ∧
          session.sealedKey.reveal = .ok key ∧
          Decided keeper.signer session key value digest answer
  /-- A key in custody opens, and nothing else is wrong with it any more. -/
  opens :
    ∀ fault, answer = .error fault →
      (∀ custodyFault, fault ≠ .custody custodyFault) ∧
        ∀ signingFault, fault ≠ .invalidKey signingFault
  /-- Only an expiry takes the session away. -/
  tornDown : answer = .error .sessionExpired → next = keeper.cleared
  unchanged :
    ∀ fault, answer = .error fault → fault ≠ .sessionExpired → next = keeper
  /-- A signature changes the value used, and nothing else. -/
  charged :
    ∀ made,
      answer = .ok made →
      ∃ session,
        keeper.held = some session ∧
          next = { keeper with held := some { session with used := made.used } }

/-- Why a request is denied: there is no session, too little is left of its limit, or the
signer fails. -/
inductive Denial : SessionFault → Prop where
  | noActiveSession :
      Denial .noActiveSession
  | valueLimitExceeded
      (requested remaining : Nat) :
      Denial (.valueLimitExceeded requested remaining)
  | signingFailure
      (fault : SigningFault) :
      Denial (.signingFailure fault)

/-- A turn at which a request to sign is denied. -/
def Denied (turn : Turn) : Prop :=
  ∃ value digest fault,
    turn.input = .sign value digest ∧
      turn.output = .signed (.error fault) ∧
      Denial fault

/-! ## One request -/

namespace Decided

variable
    {signer : Signer}
    {session : Session}
    {key : Bytes}
    {value : Nat}
    {digest : Digest}

/-- A value over the limit is decided by the limit, whatever the signer would do. -/
theorem of_excess
    (withinLimit : session.used ≤ session.limit)
    (excess : session.limit < session.used + value) :
    Decided signer session key value digest
      (.error (.valueLimitExceeded value session.budget)) where
  overLimit requested remaining := by
    constructor
    · rintro ⟨⟩
      exact ⟨excess, rfl, rfl⟩
    · rintro ⟨-, rfl, rfl⟩
      rfl
  short := by
    rintro _ _ ⟨⟩
    exact ⟨Nat.add_sub_of_le withinLimit, Nat.sub_lt_left_of_lt_add withinLimit excess⟩
  failed _ := ⟨nofun, fun ⟨within, _⟩ => absurd within (Nat.not_le.mpr excess)⟩
  signed _ := ⟨nofun, fun ⟨within, _⟩ => absurd within (Nat.not_le.mpr excess)⟩

/-- A value within the limit is decided by the signer, which may fail. -/
theorem of_failure
    (within : session.used + value ≤ session.limit)
    {fault : SigningFault}
    (failing : signer.sign key digest = .error fault) :
    Decided signer session key value digest (.error (.signingFailure fault)) where
  overLimit _ _ := ⟨nofun, fun ⟨excess, _⟩ => absurd excess (Nat.not_lt.mpr within)⟩
  short := nofun
  failed other := by
    constructor
    · rintro ⟨⟩
      exact ⟨within, failing⟩
    · rintro ⟨-, failingToo⟩
      cases failing.symm.trans failingToo
      rfl
  signed made := by
    constructor
    · exact nofun
    · rintro ⟨-, signature, making, -⟩
      cases failing.symm.trans making

theorem of_signature
    (within : session.used + value ≤ session.limit)
    {signature : Signature}
    (making : signer.sign key digest = .ok signature) :
    Decided signer session key value digest
      (.ok { signature, address := session.address, used := session.used + value }) where
  overLimit _ _ := ⟨nofun, fun ⟨excess, _⟩ => absurd excess (Nat.not_lt.mpr within)⟩
  short := nofun
  failed fault := by
    constructor
    · exact nofun
    · rintro ⟨-, failing⟩
      cases making.symm.trans failing
  signed made := by
    constructor
    · rintro ⟨⟩
      exact ⟨within, signature, making, rfl⟩
    · rintro ⟨-, other, makingToo, rfl⟩
      cases making.symm.trans makingToo
      rfl

end Decided

namespace Signing

variable
    {keeper next : Keeper}
    {now value : Nat}
    {digest : Digest}
    {answer : Except SessionFault SessionSignature}

/-- Under a live session that is within its limit and whose key opens, the answer is
decided by the limit and the signer. -/
theorem decided
    (signing : Signing keeper now value digest answer next)
    {session : Session}
    {key : Bytes}
    (held : keeper.held = some session)
    (live : now < session.expiresAt)
    (withinLimit : session.used ≤ session.limit)
    (revealing : session.sealedKey.reveal = .ok key) :
    Decided keeper.signer session key value digest answer := by
  cases signing with
  | vacant unheld => cases unheld.symm.trans held
  | expired heldLate late =>
      cases heldLate.symm.trans held
      exact absurd live (Nat.not_lt.mpr late)
  | overLimit heldLive _ excess =>
      cases heldLive.symm.trans held
      exact .of_excess withinLimit excess
  | notRevealed heldLive _ _ notRevealing =>
      cases heldLive.symm.trans held
      cases notRevealing.symm.trans revealing
  | failed heldLive _ within revealed failing =>
      cases heldLive.symm.trans held
      cases revealed.symm.trans revealing
      exact .of_failure within failing
  | signed heldLive _ within revealed making =>
      cases heldLive.symm.trans held
      cases revealed.symm.trans revealing
      exact .of_signature within making

/-- A live session is not one that has expired. -/
theorem not_late
    {session : Session}
    (held : keeper.held = some session)
    (live : now < session.expiresAt) :
    ¬ ∃ session, keeper.held = some session ∧ session.expiresAt ≤ now := by
  rintro ⟨_, heldLate, late⟩
  cases heldLate.symm.trans held
  exact Nat.not_le.mpr live late

theorem noActiveSession_iff (signing : Signing keeper now value digest answer next) :
    answer = .error .noActiveSession ↔ keeper.held = none := by
  cases signing with
  | vacant held => exact ⟨fun _ => held, fun _ => rfl⟩
  | expired held | overLimit held | notRevealed held | failed held | signed held =>
      rw [held]
      exact ⟨nofun, nofun⟩

theorem sessionExpired_iff (signing : Signing keeper now value digest answer next) :
    answer = .error .sessionExpired ↔
      ∃ session, keeper.held = some session ∧ session.expiresAt ≤ now := by
  cases signing with
  | vacant held =>
      rw [held]
      exact ⟨nofun, nofun⟩
  | expired held late => exact ⟨fun _ => ⟨_, held, late⟩, fun _ => rfl⟩
  | overLimit held live | notRevealed held live | failed held live | signed held live =>
      exact ⟨nofun, fun late => absurd late (not_late held live)⟩

/-- Of a keeper whose session is within its limit and seals the key in custody, every
request is settled. -/
theorem settled
    (signing : Signing keeper now value digest answer next)
    {custody : Option Bytes}
    (sound :
      ∀ session,
        keeper.held = some session →
        session.used ≤ session.limit ∧
          ∃ key, custody = some key ∧ session.sealedKey.reveal = .ok key) :
    Settled keeper custody now value digest answer next where
  noSession := signing.noActiveSession_iff
  expired := signing.sessionExpired_iff
  live session held live := by
    obtain ⟨withinLimit, key, sealing, revealing⟩ := sound session held
    exact ⟨key, sealing, revealing, signing.decided held live withinLimit revealing⟩
  opens fault := by
    cases signing with
    | notRevealed held _ _ notRevealing =>
        obtain ⟨_, key, _, revealing⟩ := sound _ held
        cases notRevealing.symm.trans revealing
    | signed => exact nofun
    | vacant | expired | overLimit | failed =>
        rintro ⟨⟩
        exact ⟨nofun, nofun⟩
  tornDown := by
    cases signing with
    | expired => exact fun _ => rfl
    | vacant | overLimit | notRevealed | failed | signed => exact nofun
  unchanged fault := by
    cases signing with
    | expired =>
        rintro ⟨⟩ notExpired
        exact absurd rfl notExpired
    | signed => exact nofun
    | vacant | overLimit | notRevealed | failed => exact fun _ _ => rfl
  charged made := by
    cases signing with
    | signed held =>
        rintro ⟨⟩
        exact ⟨_, held, rfl⟩
    | vacant | expired | overLimit | notRevealed | failed => exact nofun

end Signing

/-! ## A history of requests -/

/-- The session that is held seals the key that was put into custody last. -/
def Guarded (past : List Turn) (keeper : Keeper) : Prop :=
  ∀ session,
    keeper.held = some session →
    ∃ key, latestKey? past = some key ∧ session.sealedKey.reveal = .ok key

namespace Guarded

/-- A turn that puts no key into custody and leaves no other sealed key behind. -/
theorem idle
    {past : List Turn}
    {keeper next : Keeper}
    (guarded : Guarded past keeper)
    {turn : Turn}
    (noKey : sealed? turn = none)
    (kept :
      ∀ session,
        next.held = some session →
        ∃ previous,
          keeper.held = some previous ∧ previous.sealedKey = session.sealedKey) :
    Guarded (past ++ [turn]) next := by
  intro session held
  obtain ⟨previous, heldBefore, sameKey⟩ := kept session held
  obtain ⟨key, latest, revealing⟩ := guarded previous heldBefore
  refine ⟨key, ?_, sameKey ▸ revealing⟩
  simpa [latestKey?, noKey] using latest

/-- Every operation keeps the key in custody. -/
theorem step
    {past : List Turn}
    {moment next : Moment}
    {operation : Operation}
    {outcome : Outcome}
    (guarded : Guarded past moment.keeper)
    (transition : Transition moment operation outcome next) :
    Guarded (past ++ [⟨moment, operation, outcome, next⟩]) next.keeper := by
  have unchanged :
      ∀ session,
        moment.keeper.held = some session →
        ∃ previous,
          moment.keeper.held = some previous ∧
            previous.sealedKey = session.sealedKey :=
    fun session held => ⟨session, held, rfl⟩
  cases transition with
  | activate activating =>
      cases activating with
      | rejected | notSealed => exact guarded.idle rfl nofun
      | @started _ sealedKey _ derived sealing fresh =>
          rintro _ ⟨⟩
          subst fresh
          exact ⟨_, by simp [latestKey?, sealed?], Custody.SealedKey.reveal_ofMaterial sealing⟩
  | sign signing =>
      cases signing with
      | expired => exact guarded.idle rfl nofun
      | vacant | overLimit | notRevealed | failed => exact guarded.idle rfl unchanged
      | signed held =>
          refine guarded.idle rfl ?_
          rintro _ ⟨⟩
          exact ⟨_, held, rfl⟩
  | observe observing =>
      cases observing with
      | expired => exact guarded.idle rfl nofun
      | vacant | live => exact guarded.idle rfl unchanged
  | isActive => exact guarded.idle rfl unchanged
  | destroy destroying =>
      cases destroying with
      | vacant => exact guarded.idle rfl unchanged
      | expired | live => exact guarded.idle rfl nofun
  | advance => exact guarded.idle rfl unchanged

theorem run
    (signer : Signer)
    (lifetime start : Nat)
    (operations : List Operation) :
    Guarded (turns (.vacant signer lifetime start) operations)
      (Keeper.run (.vacant signer lifetime start) operations).2.keeper := by
  have vacant : Guarded [] (Moment.vacant signer lifetime start).keeper := nofun
  exact
    History.run_invariant (fun past moment => Guarded past moment.keeper) vacant operations
      fun _ moment operation _ guarded => guarded.step (step_cases moment operation)

end Guarded

/-- A turn at which a request is denied leaves everything as it was. -/
theorem Transition.eq_of_denied
    {moment next : Moment}
    {operation : Operation}
    {outcome : Outcome}
    (transition : Transition moment operation outcome next)
    (denied : Denied ⟨moment, operation, outcome, next⟩) :
    next = moment := by
  obtain ⟨value, digest, fault, rfl, rfl, denial⟩ := denied
  cases transition with
  | sign signing =>
      cases signing with
      | vacant | overLimit | failed => rfl
      | expired | notRevealed => cases denial

/--
Signing is atomic, and its outcome is exact, in every state that a history of a keeper
leads to, whatever its signer.

A request is told that there is no session, that it has expired, that its value is over
the limit, or that the signer failed, exactly if this is so and nothing before it in this
order is; otherwise it is answered with the signature, and nothing else can come out.  An
expired session is taken away; any other failure leaves the keeper as it was, so that the
requests it befell can be deleted from a history, some or all, and every other operation
still finds the same state and gives the same.
-/
theorem sign_settled
    (signer : Signer)
    (lifetime start : Nat)
    (operations : List Operation) :
    let history := turns (.vacant signer lifetime start) operations
    let moment := (run (.vacant signer lifetime start) operations).2
    moment.keeper.signer = signer ∧
      (∀ value digest,
        Settled moment.keeper (latestKey? history) moment.now value digest
          (moment.keeper.sign moment.now value digest).1
          (moment.keeper.sign moment.now value digest).2) ∧
      ∀ rest,
        History.Thinned Denied history rest →
        turns (.vacant signer lifetime start) (rest.map History.Turn.input) = rest ∧
          (run (.vacant signer lifetime start) (rest.map History.Turn.input)).2 =
            moment := by
  intro history moment
  have accounted := Accounted.run signer lifetime start operations
  have guarded := Guarded.run signer lifetime start operations
  have sound :
      ∀ session,
        moment.keeper.held = some session →
        session.used ≤ session.limit ∧
          ∃ key, latestKey? history = some key ∧ session.sealedKey.reveal = .ok key := by
    intro session held
    have withinLimit := accounted.withinLimit
    rw [← accounted.used held, accounted.limit held] at withinLimit
    exact ⟨withinLimit, guarded session held⟩
  refine ⟨?_, ?_, ?_⟩
  · exact
      History.run_keeps (·.keeper.signer)
        (fun moment operation => (step_cases moment operation).configuration.1)
        (.vacant signer lifetime start) operations
  · intro value digest
    exact (sign_cases rfl).settled sound
  · intro rest thinned
    have idle :
        ∀ moment operation,
          Denied (History.turn step moment operation) → (step moment operation).2 = moment :=
      fun moment operation denied => (step_cases moment operation).eq_of_denied denied
    exact History.turns_of_thinned idle thinned

set_option maxRecDepth 10000 in
/-- An exact fit is signed, and so is a value of nothing behind it. -/
example :
    let operations := [
      .activate Trial.draw [1] 100,
      .sign 101 (.zero 32), .sign 100 (.zero 32), .sign 0 (.zero 32), .sign 1 (.zero 32)
    ]
    (run (.vacant Trial.signer 60000 0) operations).1.tail = [
      .signed (.error (.valueLimitExceeded 101 100)),
      .signed (.ok ⟨.zero 65, "0x00", 100⟩),
      .signed (.ok ⟨.zero 65, "0x00", 100⟩),
      .signed (.error (.valueLimitExceeded 1 0))
    ] := by
  decide +kernel

end OrderCustody.Keeper
