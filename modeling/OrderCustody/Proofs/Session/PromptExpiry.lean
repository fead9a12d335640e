import Mathlib.Data.List.Forall2
import OrderCustody.Proofs.History
import OrderCustody.Proofs.Session.Transition
import OrderCustody.Proofs.Trial

namespace OrderCustody

/-!
# Expiry on the instant

A keeper notices that a session has expired only when somebody looks at it; until
then the session stays in its slot.  The prompt keeper below loses a session by
itself, the instant its lifetime has passed, and its operations never look at the
clock to find out whether a session is valid.  From the outside the two cannot be
told apart, except for the word that a session has just been found expired.
-/

/-- A session of a prompt keeper: its key as it is, and when it was started. -/
structure PromptSession where
  key : Bytes
  address : String
  limit : Nat
  used : Nat
  activatedAt : Nat

/-- At most one session at a time, which is there only while it is valid. -/
structure PromptKeeper where
  signer : Signer
  lifetime : Nat
  now : Nat
  held : Option PromptSession

namespace PromptKeeper

open Keeper (Operation Outcome)

/-- A prompt keeper without a session, at a time. -/
def vacant (signer : Signer) (lifetime now : Nat) : PromptKeeper where
  signer := signer
  lifetime := lifetime
  now := now
  held := none

/-- The prompt keeper without its session. -/
def cleared (keeper : PromptKeeper) : PromptKeeper :=
  { keeper with held := none }

/-- The prompt keeper later; a session whose lifetime has passed is gone. -/
def elapse (keeper : PromptKeeper) (milliseconds : Nat) : PromptKeeper :=
  let now := keeper.now + milliseconds
  { keeper with
    now
    held := keeper.held.filter fun session =>
      now < session.activatedAt + keeper.lifetime }

/-- The report of a session: what is left of its lifetime is the lifetime less
the time since it was started. -/
def report (keeper : PromptKeeper) (session : PromptSession) : SessionStatus where
  active := true
  remaining := keeper.lifetime - (keeper.now - session.activatedAt)
  limit := Decimal.text session.limit
  used := Decimal.text session.used
  address := session.address

/-- Start a session in the place of any other. -/
def activate (keeper : PromptKeeper) (key : Bytes) (limit : Nat) :
    Except SessionFault SessionStatus × PromptKeeper :=
  match keeper.signer.address key with
  | .error fault => (.error (.invalidKey fault), keeper.cleared)
  | .ok address =>
      if key.isEmpty then (.error (.custody .empty), keeper.cleared)
      else
        let session : PromptSession := {
          key
          address
          limit
          used := 0
          activatedAt := keeper.now
        }
        (.ok (keeper.report session), { keeper with held := some session })

/-- Sign a digest against a value of the session's limit. -/
def sign (keeper : PromptKeeper) (value : Nat) (digest : Digest) :
    Except SessionFault SessionSignature × PromptKeeper :=
  match keeper.held with
  | none => (.error .noActiveSession, keeper)
  | some session =>
      if session.limit < session.used + value then
        (.error (.valueLimitExceeded value (session.limit - session.used)), keeper)
      else
        match keeper.signer.sign session.key digest with
        | .error fault => (.error (.signingFailure fault), keeper)
        | .ok signature =>
            let used := session.used + value
            (.ok { signature, address := session.address, used },
              { keeper with held := some { session with used } })

/-- The report of what is held. -/
def status (keeper : PromptKeeper) : SessionStatus :=
  match keeper.held with
  | none => .inactive
  | some session => keeper.report session

/-- One operation. -/
def step (keeper : PromptKeeper) : Operation → Outcome × PromptKeeper
  | .activate _ key limit =>
      let (result, next) := keeper.activate key limit
      (.activated result, next)
  | .sign value digest =>
      let (result, next) := keeper.sign value digest
      (.signed result, next)
  | .observe => (.observed keeper.status false, keeper)
  | .isActive => (.active keeper.held.isSome, keeper)
  | .destroy =>
      (.destroyed (if keeper.held.isSome then .destroyed else .empty),
        keeper.cleared)
  | .advance milliseconds => (.advanced, keeper.elapse milliseconds)

/-- All operations of a history, one after the other. -/
def run (keeper : PromptKeeper) (operations : List Operation) :
    List Outcome × PromptKeeper :=
  History.run step keeper operations

end PromptKeeper

namespace Keeper

/-- An outcome without the word that a session was found expired: there was no
session. -/
def Outcome.withoutExpiry : Outcome → Outcome
  | .signed (.error .sessionExpired) => .signed (.error .noActiveSession)
  | .observed status _ => .observed status false
  | .destroyed .expired => .destroyed .empty
  | outcome => outcome

/-- A prompt keeper stands for a keeper at a time.  A session that lingers after
its end stands for no session at all. -/
inductive Represented : Moment → PromptKeeper → Prop where
  | vacant
      {signer : Signer}
      {lifetime now : Nat} :
      Represented ⟨now, signer, lifetime, none⟩ ⟨signer, lifetime, now, none⟩
  | lingering
      {signer : Signer}
      {lifetime now : Nat}
      {session : Session}
      (late : session.expiresAt ≤ now) :
      Represented ⟨now, signer, lifetime, some session⟩ ⟨signer, lifetime, now, none⟩
  | live
      {signer : Signer}
      {lifetime now activatedAt limit used : Nat}
      {sealedKey : Custody.SealedKey}
      {key : Bytes}
      {address : String}
      (revealing : sealedKey.reveal = .ok key)
      (begun : activatedAt ≤ now)
      (valid : now < activatedAt + lifetime) :
      Represented
        ⟨now, signer, lifetime,
          some ⟨sealedKey, address, activatedAt + lifetime, limit, used⟩⟩
        ⟨signer, lifetime, now, some ⟨key, address, limit, used, activatedAt⟩⟩

namespace Represented

variable {moment : Moment}
variable {prompt : PromptKeeper}

/-- Without their sessions they stand for each other too. -/
theorem cleared (represented : Represented moment prompt) :
    Represented { moment with keeper := moment.keeper.cleared } prompt.cleared := by
  cases represented <;> exact .vacant

/-- A session that was started just now is valid in both. -/
theorem started
    (represented : Represented moment prompt)
    (positive : 0 < moment.keeper.lifetime)
    {sealedKey : Custody.SealedKey}
    {key : Bytes}
    (revealing : sealedKey.reveal = .ok key)
    (address : String)
    (limit : Nat) :
    Represented
      { moment with
        keeper := { moment.keeper with
          held := some
            ⟨sealedKey, address, moment.now + moment.keeper.lifetime, limit, 0⟩ } }
      { prompt with held := some ⟨key, address, limit, 0, moment.now⟩ } := by
  have valid : moment.now < moment.now + moment.keeper.lifetime :=
    Nat.lt_add_of_pos_right positive
  cases represented <;> exact .live revealing (Nat.le_refl _) valid

/-- Starting a session gives the same in both. -/
theorem activate
    (represented : Represented moment prompt)
    (positive : 0 < moment.keeper.lifetime)
    (draw : Custody.Draw)
    (key : Bytes)
    (limit : Nat) :
    (moment.keeper.activate moment.now draw key limit).1 =
        (prompt.activate key limit).1 ∧
      Represented
        { moment with
          keeper := (moment.keeper.activate moment.now draw key limit).2 }
        (prompt.activate key limit).2 := by
  have sameSigner : prompt.signer = moment.keeper.signer := by
    cases represented <;> rfl
  have sameLifetime : prompt.lifetime = moment.keeper.lifetime := by
    cases represented <;> rfl
  have sameTime : prompt.now = moment.now := by
    cases represented <;> rfl
  cases derived : moment.keeper.signer.address key with
  | error fault =>
      simp only [Keeper.activate, PromptKeeper.activate, sameSigner, derived]
      exact ⟨trivial, represented.cleared⟩
  | ok address =>
      by_cases empty : key.isEmpty
      · simp only [Keeper.activate, PromptKeeper.activate, sameSigner, derived,
          Custody.SealedKey.ofMaterial, empty, ↓reduceIte]
        exact ⟨trivial, represented.cleared⟩
      · cases sealing : Custody.SealedKey.ofMaterial draw key with
        | error fault =>
            simp [Custody.SealedKey.ofMaterial, empty] at sealing
        | ok sealedKey =>
            have revealing := Custody.SealedKey.reveal_ofMaterial sealing
            simp only [Keeper.activate, PromptKeeper.activate, sameSigner, derived,
              sealing, empty, Bool.false_eq_true, ↓reduceIte]
            refine ⟨?_, ?_⟩
            · simp [Session.status, PromptKeeper.report, sameLifetime]
            · simpa only [sameSigner, sameTime] using
                represented.started positive revealing address limit

/-- Signing gives the same in both, apart from the word of an expiry. -/
theorem sign
    (represented : Represented moment prompt)
    (value : Nat)
    (digest : Digest) :
    (Outcome.signed (moment.keeper.sign moment.now value digest).1).withoutExpiry =
        .signed (prompt.sign value digest).1 ∧
      Represented
        { moment with keeper := (moment.keeper.sign moment.now value digest).2 }
        (prompt.sign value digest).2 := by
  cases represented with
  | vacant => exact ⟨rfl, .vacant⟩
  | lingering late =>
      simp only [Keeper.sign, Session.isExpired, late, decide_true, ↓reduceIte]
      exact ⟨rfl, .vacant⟩
  | @live signer lifetime now activatedAt limit used sealedKey key address
      revealing begun valid =>
      have notLate : ¬ activatedAt + lifetime ≤ now := Nat.not_le_of_lt valid
      simp only [Keeper.sign, PromptKeeper.sign, Session.isExpired, notLate,
        decide_false, Bool.false_eq_true, ↓reduceIte, revealing]
      by_cases excess : limit < used + value
      · simp only [excess, ↓reduceIte]
        exact ⟨rfl, .live revealing begun valid⟩
      · simp only [excess, ↓reduceIte]
        cases signing : signer.sign key digest with
        | error fault => exact ⟨rfl, .live revealing begun valid⟩
        | ok signature => exact ⟨rfl, .live revealing begun valid⟩

/-- The report is the same in both. -/
theorem observe (represented : Represented moment prompt) :
    (moment.keeper.observe moment.now).1.1 = prompt.status ∧
      Represented
        { moment with keeper := (moment.keeper.observe moment.now).2 } prompt := by
  cases represented with
  | vacant => exact ⟨rfl, .vacant⟩
  | lingering late =>
      simp only [Keeper.observe, Session.isExpired, late, decide_true, ↓reduceIte]
      exact ⟨rfl, .vacant⟩
  | @live signer lifetime now activatedAt limit used sealedKey key address
      revealing begun valid =>
      have notLate : ¬ activatedAt + lifetime ≤ now := Nat.not_le_of_lt valid
      simp only [Keeper.observe, Session.isExpired, notLate, decide_false,
        Bool.false_eq_true, ↓reduceIte]
      refine ⟨?_, .live revealing begun valid⟩
      have sameRemaining :
          activatedAt + lifetime - now = lifetime - (now - activatedAt) := by
        omega
      simp [PromptKeeper.status, PromptKeeper.report, Session.status, sameRemaining]

/-- A session is active exactly if the prompt keeper holds one. -/
theorem isActive (represented : Represented moment prompt) :
    moment.keeper.isActive moment.now = prompt.held.isSome := by
  cases represented with
  | vacant => rfl
  | lingering late => simp [Keeper.isActive, Session.isExpired, late]
  | live revealing begun valid => simp [Keeper.isActive, Session.isExpired, valid]

/-- Destroying finds the same in both, apart from the word of an expiry. -/
theorem destroy (represented : Represented moment prompt) :
    (Outcome.destroyed (moment.keeper.destroy moment.now).1).withoutExpiry =
        .destroyed (if prompt.held.isSome then .destroyed else .empty) ∧
      Represented
        { moment with keeper := (moment.keeper.destroy moment.now).2 }
        prompt.cleared := by
  cases represented with
  | vacant => exact ⟨rfl, .vacant⟩
  | lingering late =>
      simp only [Keeper.destroy, Session.isExpired, late, decide_true, ↓reduceIte]
      exact ⟨rfl, .vacant⟩
  | @live signer lifetime now activatedAt limit used sealedKey key address
      revealing begun valid =>
      have notLate : ¬ activatedAt + lifetime ≤ now := Nat.not_le_of_lt valid
      simp only [Keeper.destroy, Session.isExpired, notLate, decide_false,
        Bool.false_eq_true, ↓reduceIte]
      exact ⟨rfl, .vacant⟩

/-- As time passes, a session that ends in one lingers in the other. -/
theorem advance
    (represented : Represented moment prompt)
    (milliseconds : Nat) :
    Represented { moment with now := moment.now + milliseconds }
      (prompt.elapse milliseconds) := by
  cases represented with
  | vacant => exact .vacant
  | lingering late =>
      exact .lingering (Nat.le_add_right_of_le late)
  | @live signer lifetime now activatedAt limit used sealedKey key address
      revealing begun valid =>
      by_cases still : now + milliseconds < activatedAt + lifetime
      · simp only [PromptKeeper.elapse, Option.filter, still, decide_true, ↓reduceIte]
        exact .live revealing (Nat.le_add_right_of_le begun) still
      · simp only [PromptKeeper.elapse, Option.filter, still, decide_false,
          Bool.false_eq_true, ↓reduceIte]
        exact .lingering (Nat.le_of_not_lt still)

/-- Every operation gives the same in both, apart from the word of an expiry. -/
theorem step
    (represented : Represented moment prompt)
    (positive : 0 < moment.keeper.lifetime)
    (operation : Operation) :
    (Keeper.step moment operation).1.withoutExpiry =
        (PromptKeeper.step prompt operation).1 ∧
      Represented (Keeper.step moment operation).2
        (PromptKeeper.step prompt operation).2 := by
  cases operation with
  | activate draw key limit =>
      obtain ⟨same, stillRepresented⟩ :=
        represented.activate positive draw key limit
      exact ⟨congrArg Outcome.activated same, stillRepresented⟩
  | sign value digest => exact represented.sign value digest
  | observe =>
      obtain ⟨same, stillRepresented⟩ := represented.observe
      exact ⟨congrArg (Outcome.observed · false) same, stillRepresented⟩
  | isActive =>
      exact ⟨congrArg Outcome.active represented.isActive, represented⟩
  | destroy => exact represented.destroy
  | advance milliseconds => exact ⟨rfl, represented.advance milliseconds⟩

end Represented

/-- A whole history gives the same in both, apart from the word of an expiry. -/
theorem Represented.run
    {moment : Moment}
    {prompt : PromptKeeper}
    (represented : Represented moment prompt)
    (positive : 0 < moment.keeper.lifetime)
    (operations : List Operation) :
    (Keeper.run moment operations).1.map Outcome.withoutExpiry =
        (PromptKeeper.run prompt operations).1 ∧
      Represented (Keeper.run moment operations).2
        (PromptKeeper.run prompt operations).2 := by
  have simulated :
      ∀ moment prompt operation otherOperation,
        Represented moment prompt ∧ 0 < moment.keeper.lifetime →
        operation = otherOperation →
        (Keeper.step moment operation).1.withoutExpiry =
            id (PromptKeeper.step prompt otherOperation).1 ∧
          Represented (Keeper.step moment operation).2
              (PromptKeeper.step prompt otherOperation).2 ∧
            0 < (Keeper.step moment operation).2.keeper.lifetime := by
    rintro moment prompt operation _ ⟨represented, positive⟩ rfl
    obtain ⟨same, stillRepresented⟩ := represented.step positive operation
    have kept := (step_cases moment operation).configuration.2
    exact ⟨same, stillRepresented, kept ▸ positive⟩
  obtain ⟨sameAnswers, stillRepresented, _⟩ :=
    History.run_simulation _ Eq Outcome.withoutExpiry id simulated
      ⟨represented, positive⟩ (List.forall₂_refl operations)
  rw [List.map_id] at sameAnswers
  exact ⟨sameAnswers, stillRepresented⟩

section Agreement

variable {moment : Moment}
variable {prompt : PromptKeeper}

/-- The report says that a session is active exactly if the prompt keeper holds
one. -/
theorem Represented.observe_active (represented : Represented moment prompt) :
    (moment.keeper.observe moment.now).1.1.active = prompt.held.isSome := by
  rw [represented.observe.1]
  cases represented <;> rfl

/-- Signing is refused for want of a session exactly if the prompt keeper holds
none. -/
theorem Represented.sign_unheld_iff
    (represented : Represented moment prompt)
    (value : Nat)
    (digest : Digest) :
    ((moment.keeper.sign moment.now value digest).1 = .error .noActiveSession ∨
        (moment.keeper.sign moment.now value digest).1 = .error .sessionExpired) ↔
      prompt.held = none := by
  cases represented with
  | vacant => simp [Keeper.sign]
  | lingering late => simp [Keeper.sign, Session.isExpired, late]
  | live revealing begun valid =>
      simp only [reduceCtorEq, iff_false, not_or]
      rcases taken : Keeper.sign _ _ value digest with ⟨answer, next⟩
      cases sign_cases taken with
      | vacant held => cases held
      | expired held late =>
          cases held
          exact (Nat.not_le_of_lt valid late).elim
      | overLimit => simp
      | notRevealed => simp
      | failed => simp
      | signed => simp

/-- Destroying finds a live session exactly if the prompt keeper holds one. -/
theorem Represented.destroyed_iff (represented : Represented moment prompt) :
    (moment.keeper.destroy moment.now).1 = .destroyed ↔ prompt.held.isSome := by
  cases represented with
  | vacant => simp [Keeper.destroy]
  | lingering late => simp [Keeper.destroy, Session.isExpired, late]
  | live revealing begun valid =>
      simp [Keeper.destroy, Session.isExpired, Nat.not_le_of_lt valid]

/-- What is left of a live session is its lifetime less the time since it was
started, and that is something. -/
theorem Represented.remaining_of_held
    (represented : Represented moment prompt)
    {session : PromptSession}
    (held : prompt.held = some session) :
    session.activatedAt ≤ moment.now ∧
      (moment.keeper.observe moment.now).1.1.remaining =
        moment.keeper.lifetime - (moment.now - session.activatedAt) ∧
      0 < (moment.keeper.observe moment.now).1.1.remaining := by
  rw [represented.observe.1]
  cases represented with
  | vacant => cases held
  | lingering late => cases held
  | live revealing begun valid =>
      cases held
      refine ⟨begun, rfl, ?_⟩
      simp only [PromptKeeper.status, PromptKeeper.report]
      omega

/-- A session that lingers after its end could not be told from no session, now or
later. -/
theorem Represented.as_cleared_of_late
    (represented : Represented moment prompt)
    (positive : 0 < moment.keeper.lifetime)
    {session : Session}
    (held : moment.keeper.held = some session)
    (late : session.expiresAt ≤ moment.now) :
    (moment.keeper.observe moment.now).1.1 = .inactive ∧
      ∀ more,
        (Keeper.run moment more).1.map Outcome.withoutExpiry =
          (Keeper.run { moment with keeper := moment.keeper.cleared } more).1.map
            Outcome.withoutExpiry := by
  have gone : prompt.cleared = prompt := by
    cases represented with
    | vacant => rfl
    | lingering late => rfl
    | live revealing begun valid =>
        cases held
        exact (Nat.not_le_of_lt valid late).elim
  have unheld : prompt.held = none := congrArg PromptKeeper.held gone.symm
  constructor
  · rw [represented.observe.1, PromptKeeper.status, unheld]
  · intro more
    have cleared :
        Represented { moment with keeper := moment.keeper.cleared } prompt :=
      gone ▸ represented.cleared
    calc
      (Keeper.run moment more).1.map Outcome.withoutExpiry =
          (PromptKeeper.run prompt more).1 :=
        (represented.run positive more).1
      _ = (Keeper.run { moment with keeper := moment.keeper.cleared } more).1.map
            Outcome.withoutExpiry :=
        (cleared.run positive more).1.symm

end Agreement

/--
In every history a keeper answers like the prompt keeper, apart from the word of
an expiry.

At any time, the end of a session included, all operations agree on whether a
session is live.  The report of a live one gives its lifetime less the time since
it was started, and something is left of it.  A session that lingers after its
end is reported like none, and whatever comes next could not be told from what
would come if it were gone.
-/
theorem expiry_as_if_prompt
    (signer : Signer)
    {lifetime : Nat}
    (positive : 0 < lifetime)
    (now : Nat)
    (operations : List Operation) :
    let moment := (run (.vacant signer lifetime now) operations).2
    let prompt :=
      (PromptKeeper.run (.vacant signer lifetime now) operations).2
    (run (.vacant signer lifetime now) operations).1.map Outcome.withoutExpiry =
        (PromptKeeper.run (.vacant signer lifetime now) operations).1 ∧
      moment.keeper.isActive moment.now = prompt.held.isSome ∧
      (moment.keeper.observe moment.now).1.1.active = prompt.held.isSome ∧
      (∀ value digest,
        ((moment.keeper.sign moment.now value digest).1 = .error .noActiveSession ∨
            (moment.keeper.sign moment.now value digest).1 =
              .error .sessionExpired) ↔
          prompt.held = none) ∧
      ((moment.keeper.destroy moment.now).1 = .destroyed ↔ prompt.held.isSome) ∧
      (∀ session,
        prompt.held = some session →
        session.activatedAt ≤ moment.now ∧
          (moment.keeper.observe moment.now).1.1.remaining =
            lifetime - (moment.now - session.activatedAt) ∧
          0 < (moment.keeper.observe moment.now).1.1.remaining) ∧
      (∀ session,
        moment.keeper.held = some session →
        session.expiresAt ≤ moment.now →
        (moment.keeper.observe moment.now).1.1 = .inactive ∧
          ∀ more,
            (run moment more).1.map Outcome.withoutExpiry =
              (run { moment with keeper := moment.keeper.cleared } more).1.map
                Outcome.withoutExpiry) := by
  intro moment prompt
  have vacant :
      Represented (.vacant signer lifetime now) (.vacant signer lifetime now) :=
    .vacant
  obtain ⟨sameAnswers, represented⟩ := vacant.run positive operations
  have kept : moment.keeper.lifetime = lifetime :=
    lifetime_run (.vacant signer lifetime now) operations
  change Represented moment prompt at represented
  refine ⟨sameAnswers, represented.isActive, represented.observe_active,
    represented.sign_unheld_iff, represented.destroyed_iff, ?_, ?_⟩
  · intro session held
    rw [← kept]
    exact represented.remaining_of_held held
  · intro session held late
    exact represented.as_cleared_of_late (kept ▸ positive) held late

/-- A session of one minute is there in its last millisecond and gone at its
end. -/
theorem expiry_as_if_prompt_minute :
    let operations : List Operation := [
      .activate Trial.draw [1] 100,
      .sign 40 (.zero 32),
      .advance 59999,
      .observe,
      .advance 1,
      .isActive,
      .sign 1 (.zero 32),
      .destroy
    ]
    let answers : List Outcome := [
      .activated (.ok ⟨true, 60000, "100", "0", "0x00"⟩),
      .signed (.ok ⟨.zero 65, "0x00", 40⟩),
      .advanced,
      .observed ⟨true, 1, "100", "40", "0x00"⟩ false,
      .advanced,
      .active false,
      .signed (.error .noActiveSession),
      .destroyed .empty
    ]
    0 < 60000 ∧
      (run (.vacant Trial.signer 60000 0) operations).1.map Outcome.withoutExpiry =
        (PromptKeeper.run (.vacant Trial.signer 60000 0) operations).1 ∧
      (PromptKeeper.run (.vacant Trial.signer 60000 0) operations).1 = answers :=
  ⟨by decide, (expiry_as_if_prompt Trial.signer (by decide) 0 _).1, rfl⟩

end Keeper

end OrderCustody
