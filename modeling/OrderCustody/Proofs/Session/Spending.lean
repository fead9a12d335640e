import Mathlib.Data.List.DropRight
import OrderCustody.Proofs.History
import OrderCustody.Proofs.Session.Transition
import OrderCustody.Proofs.Trial

namespace OrderCustody.Keeper

/-!
# Spending in a session

The value a session has authorized is not only bounded by its limit: at any time
it is the exact sum of the values of the requests that were answered with a
signature since the session was started.  The account is kept from the history
alone, by what was asked and what was answered, and compared with the session
that is held.
-/

/-- The limit of the session that a turn starts. -/
def startedLimit? (turn : Turn) : Option Nat :=
  match turn.input, turn.output with
  | .activate _ _ limit, .activated (.ok _) => some limit
  | _, _ => none

/-- The value that a turn authorizes. -/
def authorized? (turn : Turn) : Option Nat :=
  match turn.input, turn.output with
  | .sign value _, .signed (.ok _) => some value
  | _, _ => none

/-- The limit of the session that was started last. -/
def latestLimit? (past : List Turn) : Option Nat :=
  (past.filterMap startedLimit?).getLast?

/-- The turns behind the last one that started a session. -/
def sinceStart (past : List Turn) : List Turn :=
  past.rtakeWhile fun turn => (startedLimit? turn).isNone

/-- The value that turns authorize altogether. -/
def authorizedIn (turns : List Turn) : Nat :=
  History.total authorized? turns

@[simp] theorem authorizedIn_append (first second : List Turn) :
    authorizedIn (first ++ second) = authorizedIn first + authorizedIn second :=
  History.total_append authorized? first second

/-- A turn that starts a session sets the limit and opens a new account. -/
theorem account_of_started
    (past : List Turn)
    {turn : Turn}
    {limit : Nat}
    (started : startedLimit? turn = some limit) :
    latestLimit? (past ++ [turn]) = some limit ∧
      authorizedIn (sinceStart (past ++ [turn])) = 0 := by
  constructor
  · simp [latestLimit?, started]
  · simp [sinceStart, started, authorizedIn]

/-- Turns that start no session leave the limit and add to the account. -/
theorem account_of_continued
    (past : List Turn)
    {during : List Turn}
    (continued : ∀ turn ∈ during, startedLimit? turn = none) :
    latestLimit? (past ++ during) = latestLimit? past ∧
      authorizedIn (sinceStart (past ++ during)) =
        authorizedIn (sinceStart past) + authorizedIn during := by
  induction during using List.reverseRecOn with
  | nil => simp [authorizedIn]
  | append_singleton during turn inductionHypothesis =>
      have lastContinued : startedLimit? turn = none := continued turn (by simp)
      obtain ⟨limitKept, accountGrown⟩ :=
        inductionHypothesis fun earlier member => continued earlier (by simp [member])
      rw [← List.append_assoc]
      constructor
      · rw [← limitKept]
        simp [latestLimit?, lastContinued]
      · have shape :
            sinceStart (past ++ during ++ [turn]) =
              sinceStart (past ++ during) ++ [turn] := by
          simp only [sinceStart, List.rtakeWhile_concat, lastContinued,
            Option.isNone_none, ↓reduceIte]
        rw [shape, authorizedIn_append, authorizedIn_append, accountGrown]
        exact Nat.add_assoc _ _ _

/-- The account kept from the past agrees with the session that is held, and it
is within the limit whether a session is held or not. -/
structure Accounted (past : List Turn) (keeper : Keeper) : Prop where
  limit :
    ∀ {session},
      keeper.held = some session →
      latestLimit? past = some session.limit
  used :
    ∀ {session},
      keeper.held = some session →
      session.used = authorizedIn (sinceStart past)
  withinLimit :
    authorizedIn (sinceStart past) ≤ (latestLimit? past).getD 0

namespace Accounted

/-- Nothing is on the account of a keeper that never did anything. -/
theorem vacant (signer : Signer) (lifetime : Nat) :
    Accounted [] (Keeper.vacant signer lifetime) where
  limit held := by cases held
  used held := by cases held
  withinLimit := by simp [sinceStart, authorizedIn]

/-- A turn that starts nothing, authorizes nothing and leaves no other session
behind keeps the account. -/
theorem idle
    {past : List Turn}
    {keeper : Keeper}
    (accounted : Accounted past keeper)
    {turn : Turn}
    {next : Keeper}
    (noStart : startedLimit? turn = none)
    (noValue : authorized? turn = none)
    (kept :
      ∀ {session}, next.held = some session → keeper.held = some session) :
    Accounted (past ++ [turn]) next := by
  have continued : ∀ last ∈ [turn], startedLimit? last = none := by
    simpa using noStart
  obtain ⟨limitKept, accountGrown⟩ := account_of_continued past continued
  have accountKept :
      authorizedIn (sinceStart (past ++ [turn])) =
        authorizedIn (sinceStart past) := by
    simpa [authorizedIn, noValue] using accountGrown
  exact {
    limit := fun held => limitKept.trans (accounted.limit (kept held))
    used := fun held => (accounted.used (kept held)).trans accountKept.symm
    withinLimit := by
      rw [accountKept, limitKept]
      exact accounted.withinLimit
  }

/-- A turn that starts a session puts it on a new account. -/
theorem started
    {past : List Turn}
    {turn : Turn}
    {next : Keeper}
    {session : Session}
    (starts : startedLimit? turn = some session.limit)
    (unused : session.used = 0)
    (held : next.held = some session) :
    Accounted (past ++ [turn]) next := by
  obtain ⟨limitSet, accountOpened⟩ := account_of_started past starts
  exact {
    limit := fun heldNext => by
      cases held.symm.trans heldNext
      exact limitSet
    used := fun heldNext => by
      cases held.symm.trans heldNext
      rw [unused, accountOpened]
    withinLimit := by simp [accountOpened]
  }

/-- A turn that authorizes a value within the limit adds it to the account. -/
theorem signed
    {past : List Turn}
    {keeper : Keeper}
    (accounted : Accounted past keeper)
    {turn : Turn}
    {next : Keeper}
    {session : Session}
    {value : Nat}
    (noStart : startedLimit? turn = none)
    (authorizes : authorized? turn = some value)
    (held : keeper.held = some session)
    (within : session.used + value ≤ session.limit)
    (heldNext : next.held = some { session with used := session.used + value }) :
    Accounted (past ++ [turn]) next := by
  have continued : ∀ last ∈ [turn], startedLimit? last = none := by
    simpa using noStart
  obtain ⟨limitKept, accountGrown⟩ := account_of_continued past continued
  have accountNow :
      authorizedIn (sinceStart (past ++ [turn])) = session.used + value := by
    rw [accountGrown, accounted.used held]
    simp [authorizedIn, authorizes]
  have limitNow : latestLimit? (past ++ [turn]) = some session.limit :=
    limitKept.trans (accounted.limit held)
  exact {
    limit := fun heldAfter => by
      cases heldNext.symm.trans heldAfter
      exact limitNow
    used := fun heldAfter => by
      cases heldNext.symm.trans heldAfter
      exact accountNow.symm
    withinLimit := by
      rw [accountNow, limitNow]
      exact within
  }

/-- Every operation keeps the account. -/
theorem step
    {past : List Turn}
    {moment next : Moment}
    {operation : Operation}
    {outcome : Outcome}
    (accounted : Accounted past moment.keeper)
    (transition : Transition moment operation outcome next) :
    Accounted (past ++ [⟨moment, operation, outcome, next⟩]) next.keeper := by
  cases transition with
  | activate activating =>
      cases activating with
      | rejected => exact accounted.idle rfl rfl nofun
      | notSealed => exact accounted.idle rfl rfl nofun
      | started derived sealing fresh =>
          subst fresh
          exact started rfl rfl rfl
  | sign signing =>
      cases signing with
      | vacant => exact accounted.idle rfl rfl id
      | expired => exact accounted.idle rfl rfl nofun
      | overLimit => exact accounted.idle rfl rfl id
      | notRevealed => exact accounted.idle rfl rfl id
      | failed => exact accounted.idle rfl rfl id
      | signed held live within revealing signing =>
          exact accounted.signed rfl rfl held within rfl
  | observe observing =>
      cases observing with
      | vacant => exact accounted.idle rfl rfl id
      | expired => exact accounted.idle rfl rfl nofun
      | live => exact accounted.idle rfl rfl id
  | isActive => exact accounted.idle rfl rfl id
  | destroy destroying =>
      cases destroying with
      | vacant => exact accounted.idle rfl rfl id
      | expired => exact accounted.idle rfl rfl nofun
      | live => exact accounted.idle rfl rfl nofun
  | advance => exact accounted.idle rfl rfl id

/-- Every history from a keeper that never did anything is accounted for. -/
theorem run
    (signer : Signer)
    (lifetime now : Nat)
    (operations : List Operation) :
    Accounted (turns (.vacant signer lifetime now) operations)
      (Keeper.run (.vacant signer lifetime now) operations).2.keeper := by
  have start : Accounted [] (Moment.vacant signer lifetime now).keeper :=
    vacant signer lifetime
  exact
    History.run_invariant (fun past moment => Accounted past moment.keeper)
      start operations fun _ moment operation _ accounted =>
        accounted.step (step_cases moment operation)

/-- A session that is held has used no more than its limit. -/
theorem used_le_limit
    {past : List Turn}
    {keeper : Keeper}
    (accounted : Accounted past keeper)
    {session : Session}
    (held : keeper.held = some session) :
    session.used ≤ session.limit := by
  have withinLimit := accounted.withinLimit
  rwa [← accounted.used held, accounted.limit held] at withinLimit

end Accounted

/-- Whatever turn starts a session leaves it held, with its limit and nothing
used. -/
theorem held_of_started
    {moment : Moment}
    {operation : Operation}
    {limit : Nat}
    (starts : startedLimit? (History.turn step moment operation) = some limit) :
    ∃ session,
      (step moment operation).2.keeper.held = some session ∧
        session.limit = limit ∧
        session.used = 0 := by
  have transition := step_cases moment operation
  simp only [History.turn] at starts
  generalize (step moment operation).1 = outcome at starts transition
  generalize (step moment operation).2 = next at starts transition ⊢
  cases transition with
  | activate activating =>
      cases activating with
      | rejected => cases starts
      | notSealed => cases starts
      | started derived sealing fresh =>
          cases starts
          subst fresh
          exact ⟨_, rfl, rfl, rfl⟩
  | sign => cases starts
  | observe => cases starts
  | isActive => cases starts
  | destroy => cases starts
  | advance => cases starts

section Spending

variable {signer : Signer}
variable {lifetime now : Nat}
variable {operations : List Operation}
variable {earlier later : List Turn}
variable {turn : Turn}

/-- An answer with a signature carries the account with its own value on it. -/
theorem used_of_signed
    {signed : SessionSignature}
    (split :
      turns (.vacant signer lifetime now) operations = earlier ++ turn :: later)
    (answered : turn.output = .signed (.ok signed)) :
    ∃ value digest,
      turn.input = .sign value digest ∧
        signed.used = authorizedIn (sinceStart earlier) + value := by
  obtain ⟨first, operation, second, _, rfl, rfl⟩ :=
    History.exists_of_turns_eq_cons split
  have accounted := Accounted.run signer lifetime now first
  have transition :=
    step_cases (run (.vacant signer lifetime now) first).2 operation
  change (step (run (.vacant signer lifetime now) first).2 operation).1 = _ at answered
  rw [answered] at transition
  generalize (step _ operation).2 = next at transition
  cases transition with
  | @sign value digest _ _ signing =>
      cases signing with
      | signed held live within revealing signing =>
          exact ⟨value, digest, rfl, congrArg (· + value) (accounted.used held)⟩

/-- From one start of a session to the next, no more is authorized than the
limit, also if the session comes to its end in between. -/
theorem authorizedIn_le_limit
    {during : List Turn}
    {limit : Nat}
    (split :
      turns (.vacant signer lifetime now) operations =
        earlier ++ turn :: (during ++ later))
    (starts : startedLimit? turn = some limit)
    (continued : ∀ turn ∈ during, startedLimit? turn = none) :
    authorizedIn during ≤ limit := by
  have regrouped :
      turns (.vacant signer lifetime now) operations =
        (earlier ++ [turn] ++ during) ++ later := by
    rw [split]
    simp
  obtain ⟨first, second, _, firstTurns, _⟩ :=
    History.exists_of_turns_eq_append regrouped
  obtain ⟨limitSet, accountOpened⟩ := account_of_started earlier starts
  obtain ⟨limitKept, accountGrown⟩ :=
    account_of_continued (earlier ++ [turn]) continued
  have accounted := Accounted.run signer lifetime now first
  rw [turns, firstTurns] at accounted
  calc
    authorizedIn during = authorizedIn (sinceStart (earlier ++ [turn] ++ during)) := by
      rw [accountGrown, accountOpened, Nat.zero_add]
    _ ≤ (latestLimit? (earlier ++ [turn] ++ during)).getD 0 := accounted.withinLimit
    _ = limit := by
      rw [limitKept, limitSet]
      rfl

/-- While no other session is started, the value used never decreases and the
limit stays. -/
theorem used_le_used_of_continued
    {more : List Operation}
    {session laterSession : Session}
    (continued :
      ∀ turn ∈ turns (run (.vacant signer lifetime now) operations).2 more,
        startedLimit? turn = none)
    (held :
      (run (.vacant signer lifetime now) operations).2.keeper.held = some session)
    (heldLater :
      (run (.vacant signer lifetime now) (operations ++ more)).2.keeper.held =
        some laterSession) :
    session.used ≤ laterSession.used ∧ session.limit = laterSession.limit := by
  have accounted := Accounted.run signer lifetime now operations
  have accountedLater := Accounted.run signer lifetime now (operations ++ more)
  rw [turns, History.turns_append] at accountedLater
  obtain ⟨limitKept, accountGrown⟩ :=
    account_of_continued (turns (.vacant signer lifetime now) operations) continued
  constructor
  · rw [accounted.used held, accountedLater.used heldLater]
    exact accountGrown ▸ Nat.le_add_right _ _
  · have limitLater :=
      limitKept.symm.trans (accountedLater.limit heldLater)
    exact Option.some.inj ((accounted.limit held).symm.trans limitLater)

end Spending

/--
Spending in every history of a keeper, whatever its signer and its lifetime.

A session that is held has the limit it was started with and has used exactly
the values authorized since then, which the limit bounds.  It has used nothing
when it is started, and every signature carries the account up to itself.  So
from one start to the next the limit bounds what is authorized altogether, and
what is used never decreases.
-/
theorem spending_accounted
    (signer : Signer)
    (lifetime now : Nat)
    (operations : List Operation) :
    (∀ session,
      (run (.vacant signer lifetime now) operations).2.keeper.held = some session →
      latestLimit? (turns (.vacant signer lifetime now) operations) =
          some session.limit ∧
        session.used =
          authorizedIn (sinceStart (turns (.vacant signer lifetime now) operations)) ∧
        session.used ≤ session.limit) ∧
    (∀ turn ∈ turns (.vacant signer lifetime now) operations,
      ∀ limit,
        startedLimit? turn = some limit →
        ∃ session,
          turn.after.keeper.held = some session ∧
            session.limit = limit ∧
            session.used = 0) ∧
    (∀ earlier turn later signed,
      turns (.vacant signer lifetime now) operations = earlier ++ turn :: later →
      turn.output = .signed (.ok signed) →
      ∃ value digest,
        turn.input = .sign value digest ∧
          signed.used = authorizedIn (sinceStart earlier) + value) ∧
    (∀ earlier turn during later limit,
      turns (.vacant signer lifetime now) operations =
        earlier ++ turn :: (during ++ later) →
      startedLimit? turn = some limit →
      (∀ turn ∈ during, startedLimit? turn = none) →
      authorizedIn during ≤ limit) ∧
    (∀ more session laterSession,
      (∀ turn ∈ turns (run (.vacant signer lifetime now) operations).2 more,
        startedLimit? turn = none) →
      (run (.vacant signer lifetime now) operations).2.keeper.held = some session →
      (run (.vacant signer lifetime now) (operations ++ more)).2.keeper.held =
        some laterSession →
      session.used ≤ laterSession.used ∧ session.limit = laterSession.limit) := by
  have accounted := Accounted.run signer lifetime now operations
  refine ⟨?_, ?_, ?_, ?_, ?_⟩
  · intro session held
    have limitSet := accounted.limit held
    refine ⟨limitSet, accounted.used held, ?_⟩
    rw [accounted.used held]
    simpa [limitSet] using accounted.withinLimit
  · intro turn member limit starts
    obtain ⟨earlier, later, split⟩ := List.append_of_mem member
    obtain ⟨first, operation, second, _, _, rfl⟩ :=
      History.exists_of_turns_eq_cons split
    exact held_of_started starts
  · intro earlier turn later signed split answered
    exact used_of_signed split answered
  · intro earlier turn during later limit split starts continued
    exact authorizedIn_le_limit split starts continued
  · intro more session laterSession continued held heldLater
    exact used_le_used_of_continued continued held heldLater

set_option maxRecDepth 10000 in
/-- Values that do not fit any more are refused and cost nothing. -/
example :
    let values := [300, 450, 400, 200, 50, 1, 0]
    let operations :=
      .activate Trial.draw [1] 1000 :: values.map fun value => .sign value (.zero 32)
    authorizedIn (turns (.vacant Trial.signer 60000 0) operations) = 1000 := by
  decide +kernel

end OrderCustody.Keeper
