import OrderCustody.Proofs.Session.Spending

namespace OrderCustody.Keeper

/-!
# Every session ends once

A session that was started is still held, or it was ended by exactly one turn: one
that found it expired, a destruction, or the start of another session.  Turn by turn,
what is started and what was held comes to what is ended and what is held then; a
whole history adds this up.
-/

/-- How a turn ends a session. -/
inductive Ending where
  /-- A request to sign finds it expired. -/
  | expiredOnSign
  /-- A report finds it expired. -/
  | expiredOnReport
  /-- A destruction finds it expired. -/
  | expiredOnDestroy
  /-- A destruction finds it live. -/
  | destroyed
  /-- The start of another session takes its place, even if that fails. -/
  | displaced
  deriving DecidableEq

/-- Whether a session that ends so has been found expired. -/
def Ending.late : Ending → Bool
  | .expiredOnSign => true
  | .expiredOnReport => true
  | .expiredOnDestroy => true
  | .destroyed => false
  | .displaced => false

/-- How a turn ends a session, if it ends one: what it was asked and what it answered
say so, but for the start of another session, which says nothing of what it found. -/
def ending? (turn : Turn) : Option Ending :=
  match turn.input, turn.output with
  | .sign _ _, .signed (.error .sessionExpired) => some .expiredOnSign
  | .observe, .observed _ true => some .expiredOnReport
  | .destroy, .destroyed .expired => some .expiredOnDestroy
  | .destroy, .destroyed .destroyed => some .destroyed
  | .activate _ _ _, _ =>
      if turn.before.keeper.held.isSome then some .displaced else none
  | _, _ => none

/-- Whether a turn starts a session. -/
def starts (turn : Turn) : Bool :=
  (startedLimit? turn).isSome

/-- The number of turns that start a session. -/
def started (turns : List Turn) : Nat :=
  turns.countP starts

/-- The number of turns that end a session in some way. -/
def ended (ending : Ending) (turns : List Turn) : Nat :=
  turns.countP fun turn => ending? turn = some ending

/-- The number of turns that end a session in whatever way. -/
def endedAnyhow (turns : List Turn) : Nat :=
  ended .expiredOnSign turns + ended .expiredOnReport turns +
    (ended .destroyed turns + ended .expiredOnDestroy turns) + ended .displaced turns

/-- The number of sessions that are held. -/
def heldCount (keeper : Keeper) : Nat :=
  if keeper.held.isSome then 1 else 0

/-- What a turn does to the session that is held. -/
inductive Course (turn : Turn) : Prop where
  /-- The session stays, or there is none. -/
  | kept
      (noStart : startedLimit? turn = none)
      (noEnding : ending? turn = none)
      (held :
        turn.after.keeper.held.map Session.expiresAt =
          turn.before.keeper.held.map Session.expiresAt)
  /-- The session ends. -/
  | ended
      {ending : Ending}
      {session : Session}
      (noStart : startedLimit? turn = none)
      (ends : ending? turn = some ending)
      (held : turn.before.keeper.held = some session)
      (late : ending.late = true → session.expiresAt ≤ turn.before.now)
      (live : ending = .destroyed → turn.before.now < session.expiresAt)
      (unheld : turn.after.keeper.held = none)
  /-- A session starts where none was. -/
  | started
      {limit : Nat}
      {session : Session}
      (starts : startedLimit? turn = some limit)
      (noEnding : ending? turn = none)
      (unheld : turn.before.keeper.held = none)
      (held : turn.after.keeper.held = some session)
      (expiry :
        session.expiresAt = turn.before.now + turn.before.keeper.lifetime)
  /-- A session starts in the place of another. -/
  | replaced
      {limit : Nat}
      {session next : Session}
      (starts : startedLimit? turn = some limit)
      (ends : ending? turn = some .displaced)
      (heldBefore : turn.before.keeper.held = some session)
      (held : turn.after.keeper.held = some next)
      (expiry : next.expiresAt = turn.before.now + turn.before.keeper.lifetime)

/-- The start of a session that fails ends whatever session there is. -/
theorem course_of_not_started
    (moment : Moment)
    (draw : Custody.Draw)
    (key : Bytes)
    (limit : Nat)
    (fault : SessionFault) :
    Course ⟨moment, .activate draw key limit, .activated (.error fault),
      { moment with keeper := moment.keeper.cleared }⟩ := by
  cases held : moment.keeper.held with
  | none =>
      have noEnding :
          ending? ⟨moment, .activate draw key limit, .activated (.error fault),
            { moment with keeper := moment.keeper.cleared }⟩ = none := by
        simp [ending?, held]
      exact .kept rfl noEnding (by simp [held, cleared])
  | some session =>
      have displaces :
          ending? ⟨moment, .activate draw key limit, .activated (.error fault),
            { moment with keeper := moment.keeper.cleared }⟩ = some .displaced := by
        simp [ending?, held]
      exact .ended rfl displaces held nofun nofun rfl

/-- Every turn takes one of these courses. -/
theorem Transition.course
    {moment next : Moment}
    {operation : Operation}
    {outcome : Outcome}
    (transition : Transition moment operation outcome next) :
    Course ⟨moment, operation, outcome, next⟩ := by
  cases transition with
  | activate activating =>
      cases activating with
      | rejected => exact course_of_not_started moment _ _ _ _
      | notSealed => exact course_of_not_started moment _ _ _ _
      | started derived sealing fresh =>
          subst fresh
          cases held : moment.keeper.held with
          | none => exact .started rfl (by simp [ending?, held]) held rfl rfl
          | some session =>
              exact .replaced rfl (by simp [ending?, held]) held rfl rfl
  | sign signing =>
      cases signing with
      | vacant => exact .kept rfl rfl rfl
      | expired held late => exact .ended rfl rfl held (fun _ => late) nofun rfl
      | overLimit => exact .kept rfl rfl rfl
      | notRevealed => exact .kept rfl rfl rfl
      | failed => exact .kept rfl rfl rfl
      | signed held => exact .kept rfl rfl (by simp [held])
  | observe observing =>
      cases observing with
      | vacant => exact .kept rfl rfl rfl
      | expired held late => exact .ended rfl rfl held (fun _ => late) nofun rfl
      | live => exact .kept rfl rfl rfl
  | isActive => exact .kept rfl rfl rfl
  | destroy destroying =>
      cases destroying with
      | vacant => exact .kept rfl rfl rfl
      | expired held late => exact .ended rfl rfl held (fun _ => late) nofun rfl
      | live held live => exact .ended rfl rfl held nofun (fun _ => live) rfl
  | advance => exact .kept rfl rfl rfl

/-! ## Adding up -/

/-- One turn more adds one to the count of its own way to end, if it ends a
session. -/
theorem endedAnyhow_concat (past : List Turn) (turn : Turn) :
    endedAnyhow (past ++ [turn]) =
      endedAnyhow past + if (ending? turn).isSome then 1 else 0 := by
  simp only [endedAnyhow, ended, List.countP_append, List.countP_singleton]
  cases ends : ending? turn with
  | none => simp
  | some ending =>
      cases ending <;> simp <;> omega

theorem started_concat (past : List Turn) (turn : Turn) :
    started (past ++ [turn]) =
      started past + if (startedLimit? turn).isSome then 1 else 0 := by
  rw [started, List.countP_append, List.countP_singleton]
  rfl

/-- What a turn starts and what was held before come to what it ends and what is held
behind it. -/
theorem Course.balance
    {turn : Turn}
    (course : Course turn) :
    (if (startedLimit? turn).isSome then 1 else 0) + heldCount turn.before.keeper =
      (if (ending? turn).isSome then 1 else 0) + heldCount turn.after.keeper := by
  cases course with
  | kept noStart noEnding held =>
      have sameHeld := congrArg Option.isSome held
      simp only [Option.isSome_map] at sameHeld
      simp [heldCount, noStart, noEnding, sameHeld]
  | ended noStart ends held late live unheld =>
      simp [heldCount, noStart, ends, held, unheld]
  | started starts noEnding unheld held expiry =>
      simp [heldCount, starts, noEnding, unheld, held]
  | replaced starts ends heldBefore held expiry =>
      simp [heldCount, starts, ends, heldBefore, held]

/-- What was started in a history has ended, but for what is held. -/
theorem started_eq_endedAnyhow_add_held
    (signer : Signer)
    (lifetime now : Nat)
    (operations : List Operation) :
    started (turns (.vacant signer lifetime now) operations) =
      endedAnyhow (turns (.vacant signer lifetime now) operations) +
        heldCount (run (.vacant signer lifetime now) operations).2.keeper := by
  have balanced :
      started [] =
        endedAnyhow [] + heldCount (Moment.vacant signer lifetime now).keeper :=
    rfl
  refine
    History.run_invariant
      (fun past moment => started past = endedAnyhow past + heldCount moment.keeper)
      balanced operations ?_
  intro past moment operation _ balanced
  have course : Course (History.turn step moment operation) :=
    (step_cases moment operation).course
  have balance := course.balance
  rw [started_concat, endedAnyhow_concat, balanced]
  change _ + heldCount moment.keeper = _ + heldCount (step moment operation).2.keeper
    at balance
  omega

/-! ## Starts and endings in pairs -/

/-- The start of a session somewhere in the past, behind which no other session has
started and none has ended. -/
structure Span (past : List Turn) where
  earlier : List Turn
  activation : Turn
  between : List Turn
  limit : Nat
  split : past = earlier ++ activation :: between
  begins : startedLimit? activation = some limit
  quiet : ∀ turn ∈ between, startedLimit? turn = none ∧ ending? turn = none

namespace Span

/-- When the session was started. -/
def begunAt
    {past : List Turn}
    (span : Span past) :
    Nat :=
  span.activation.before.now

/-- The start of a session in the last turn. -/
def ofLast
    (past : List Turn)
    {activation : Turn}
    {limit : Nat}
    (begins : startedLimit? activation = some limit) :
    Span (past ++ [activation]) where
  earlier := past
  activation := activation
  between := []
  limit := limit
  split := rfl
  begins := begins
  quiet _ inBetween := by cases inBetween

/-- The same start one turn later. -/
def later
    {past : List Turn}
    (span : Span past)
    {turn : Turn}
    (noStart : startedLimit? turn = none)
    (noEnding : ending? turn = none) :
    Span (past ++ [turn]) :=
  { span with
    between := span.between ++ [turn]
    split :=
      calc
        past ++ [turn] = (span.earlier ++ span.activation :: span.between) ++ [turn] :=
          congrArg (· ++ [turn]) span.split
        _ = span.earlier ++ span.activation :: (span.between ++ [turn]) :=
          List.append_assoc _ _ _
    quiet := by
      intro member inBetween
      rcases List.mem_append.mp inBetween with before | last
      · exact span.quiet member before
      · cases List.mem_singleton.mp last
        exact ⟨noStart, noEnding⟩ }

end Span

/-- The session that is held has been started once, and not ended since. -/
def Spanned (past : List Turn) (moment : Moment) : Prop :=
  ∀ expiry,
    moment.keeper.held.map Session.expiresAt = some expiry →
    ∃ span : Span past, expiry = span.begunAt + moment.keeper.lifetime

theorem Spanned.step
    {past : List Turn}
    {turn : Turn}
    (spanned : Spanned past turn.before)
    (course : Course turn)
    (sameLifetime : turn.after.keeper.lifetime = turn.before.keeper.lifetime) :
    Spanned (past ++ [turn]) turn.after := by
  intro expiry held
  rw [sameLifetime]
  cases course with
  | kept noStart noEnding heldSame =>
      obtain ⟨span, begun⟩ := spanned expiry (heldSame ▸ held)
      exact ⟨span.later noStart noEnding, begun⟩
  | ended _ _ _ _ _ unheld =>
      rw [unheld] at held
      cases held
  | started starts _ _ heldNow expires =>
      rw [heldNow] at held
      cases held
      exact ⟨.ofLast past starts, expires⟩
  | replaced starts _ _ heldNow expires =>
      rw [heldNow] at held
      cases held
      exact ⟨.ofLast past starts, expires⟩

theorem Spanned.run
    (signer : Signer)
    (lifetime now : Nat)
    (operations : List Operation) :
    Spanned (turns (.vacant signer lifetime now) operations)
      (Keeper.run (.vacant signer lifetime now) operations).2 := by
  have vacant : Spanned [] (.vacant signer lifetime now) := by
    intro expiry held
    cases held
  refine History.run_invariant Spanned vacant operations ?_
  intro past moment operation _ spanned
  have transition := step_cases moment operation
  have course : Course (History.turn Keeper.step moment operation) := transition.course
  exact Spanned.step spanned course transition.configuration.2

section Endings

variable {signer : Signer}
variable {lifetime now : Nat}
variable {operations : List Operation}

/-- The turn that ends a session ends one that has been started, and not ended
before; whether its lifetime has passed is seen from the way it ends. -/
theorem exists_span_of_ending
    {earlier later : List Turn}
    {turn : Turn}
    {ending : Ending}
    (split :
      turns (.vacant signer lifetime now) operations = earlier ++ turn :: later)
    (ends : ending? turn = some ending) :
    ∃ span : Span earlier,
      (ending.late = true → span.begunAt + lifetime ≤ turn.before.now) ∧
        (ending = .destroyed → turn.before.now < span.begunAt + lifetime) := by
  obtain ⟨first, operation, second, _, rfl, rfl⟩ :=
    History.exists_of_turns_eq_cons split
  have sameLifetime := lifetime_run (.vacant signer lifetime now) first
  have course :
      Course (History.turn step (run (.vacant signer lifetime now) first).2 operation) :=
    (step_cases _ operation).course
  have spanned := Spanned.run signer lifetime now first
  have spanOf :
      ∀ session,
        (run (.vacant signer lifetime now) first).2.keeper.held = some session →
        ∃ span : Span (turns (.vacant signer lifetime now) first),
          session.expiresAt = span.begunAt + lifetime := by
    intro session held
    obtain ⟨span, begun⟩ := spanned session.expiresAt (by rw [held]; rfl)
    exact ⟨span, begun.trans (congrArg (span.begunAt + ·) sameLifetime)⟩
  cases course with
  | kept _ noEnding => cases noEnding.symm.trans ends
  | ended _ endsNow held late live =>
      cases endsNow.symm.trans ends
      obtain ⟨span, begun⟩ := spanOf _ held
      exact ⟨span, fun isLate => begun ▸ late isLate, fun isLive => begun ▸ live isLive⟩
  | started _ noEnding => cases noEnding.symm.trans ends
  | replaced _ endsNow held =>
      cases endsNow.symm.trans ends
      obtain ⟨span, _⟩ := spanOf _ held
      exact ⟨span, nofun, nofun⟩

/-- Between two turns that end a session one is started, at the earliest by the first
of the two, since nothing has ended behind the start that the second ending belongs to. -/
theorem exists_start_between_endings
    {earlier between later : List Turn}
    {first second : Turn}
    (split :
      turns (.vacant signer lifetime now) operations =
        earlier ++ first :: (between ++ second :: later))
    (firstEnds : (ending? first).isSome)
    (secondEnds : (ending? second).isSome) :
    ∃ turn ∈ first :: between, starts turn := by
  obtain ⟨ending, ends⟩ := Option.isSome_iff_exists.mp secondEnds
  have regrouped :
      turns (.vacant signer lifetime now) operations =
        (earlier ++ first :: between) ++ second :: later := by
    simpa using split
  obtain ⟨span, -⟩ := exists_span_of_ending regrouped ends
  have startsActivation : starts span.activation := by simp [starts, span.begins]
  rcases List.append_eq_append_iff.mp span.split with
    ⟨middle, _, tail⟩ | ⟨middle, _, tail⟩
  · exact ⟨span.activation, by simp [tail], startsActivation⟩
  · cases middle with
    | nil =>
        obtain ⟨sameTurn, _⟩ := List.cons.inj tail
        exact ⟨span.activation, by simp [sameTurn], startsActivation⟩
    | cons head middle =>
        have inBetween : first ∈ span.between := by simp [(List.cons.inj tail).2]
        simp [(span.quiet first inBetween).2] at firstEnds

end Endings

/--
Sessions are conserved in every history of a keeper, whatever its signer and its
lifetime.

As many sessions are started as are found expired by a request to sign, found expired
by a report, found live or expired by a destruction, or displaced by the start of
another one, successful or not, and one more if a session is held at the end.  Every
turn that ends a session belongs to one start before it, behind which nothing has been
started or ended; it finds the session expired only if the lifetime has passed since
then, and live only if it has not.  No start belongs to two endings, for between any
two of them a session is started.
-/
theorem sessions_conserved
    (signer : Signer)
    (lifetime now : Nat)
    (operations : List Operation) :
    let history := turns (.vacant signer lifetime now) operations
    started history =
        ended .expiredOnSign history + ended .expiredOnReport history +
            (ended .destroyed history + ended .expiredOnDestroy history) +
          ended .displaced history +
        heldCount (run (.vacant signer lifetime now) operations).2.keeper ∧
      (∀ earlier turn later ending,
        history = earlier ++ turn :: later →
        ending? turn = some ending →
        ∃ span : Span earlier,
          (ending.late = true → span.begunAt + lifetime ≤ turn.before.now) ∧
            (ending = .destroyed → turn.before.now < span.begunAt + lifetime)) ∧
      ∀ earlier first between second later,
        history = earlier ++ first :: (between ++ second :: later) →
        (ending? first).isSome →
        (ending? second).isSome →
        ∃ turn ∈ first :: between, starts turn :=
  ⟨started_eq_endedAnyhow_add_held signer lifetime now operations,
    fun _ _ _ _ split ends => exists_span_of_ending split ends,
    fun _ _ _ _ _ split firstEnds secondEnds =>
      exists_start_between_endings split firstEnds secondEnds⟩

set_option maxRecDepth 10000 in
/-- Five sessions that end in five ways, and a sixth that is held. -/
example :
    let start := Operation.activate Trial.draw [1] 100
    let operations := [
      start, .advance 60000, .sign 1 (.zero 32),
      start, .advance 60000, .observe,
      start, .advance 60000, .destroy,
      start, .destroy,
      start, start
    ]
    let history := turns (.vacant Trial.signer 60000 0) operations
    started history = 6 ∧
      [.expiredOnSign, .expiredOnReport, .expiredOnDestroy, .destroyed, .displaced].map
        (ended · history) = [1, 1, 1, 1, 1] := by
  decide +kernel

end OrderCustody.Keeper
