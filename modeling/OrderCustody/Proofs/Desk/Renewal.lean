import OrderCustody.Proofs.Desk.Secrecy

namespace OrderCustody.Desk

/-!
# A new session knows nothing of the past

A session is started with a key and a limit, on a desk that has been set up once and
for all, at a time.  Whatever the desk went through before, from the start of the
session on it cannot be told from one that has just been set up.
-/

/-- The start of a session looks the same on desks that are set up alike, and so does
all that follows, whatever sessions they held before. -/
theorem SetUpAlike.sights_activate
    {moment other : Moment}
    (alike : SetUpAlike moment other)
    {key otherKey : Bytes}
    (treated : moment.desk.keeper.signer.TreatsAlike key otherKey)
    (draw otherDraw : Custody.Draw)
    (limit : Option Nat)
    {more otherMore : List Operation}
    (moreAlike :
      List.Forall₂ (Operation.Alike moment.desk.keeper.signer) more otherMore) :
    (turns moment (.activate draw (.ok key) limit :: more)).map sight =
      (turns other (.activate otherDraw (.ok otherKey) limit :: otherMore)).map
        sight := by
  let operation := Operation.activate draw (.ok key) limit
  let otherOperation := Operation.activate otherDraw (.ok otherKey) limit
  obtain ⟨sameResult, keepersAlike⟩ := alike.activate treated draw otherDraw limit
  have sameOutput :
      (Desk.step other otherOperation).1 = (Desk.step moment operation).1 :=
    congrArg Outcome.activated sameResult
  have sameDuration : otherOperation.duration = operation.duration := rfl
  have startedAlike :
      Alike (Desk.step moment operation).2 (Desk.step other otherOperation).2 :=
    { alike.step sameDuration with keeper := keepersAlike }
  have sameSight :
      sight (History.turn Desk.step moment operation) =
        sight (History.turn Desk.step other otherOperation) := by
    refine sight_step_eq alike sameOutput ?_
    rw [History.turn, sameOutput]
    exact owed?_activate_eq _
  have sameSigner :
      (Desk.step moment operation).2.desk.keeper.signer = moment.desk.keeper.signer :=
    (step_cases moment operation).configuration.2.1
  have sameSights := startedAlike.sights (sameSigner ▸ moreAlike)
  exact congrArg₂ List.cons sameSight sameSights

/--
A session that is started anew erases all that was before.

Take any two histories of desks with the same set-up, which may have started at
different times and end at the same one, and start a session in both with the same
key and limit.  From that turn on they look the same whatever comes next, answers and
lines of the trail apart from their times: like a desk that is set up at this instant
and starts this session first.  Neither what was held, nor what was used of it, nor
the bytes that are drawn for sealing make any difference.
-/
theorem reactivation_erases_past
    (setUp : SetUp)
    (clock otherClock freshClock : Clock)
    (file otherFile : List Audit.Event)
    (past otherPast : List Operation)
    (sameTime :
      (run (setUp.moment clock file) past).2.clock.elapsed = freshClock.elapsed)
    (otherSameTime :
      (run (setUp.moment otherClock otherFile) otherPast).2.clock.elapsed =
        freshClock.elapsed)
    (draw otherDraw freshDraw : Custody.Draw)
    (key : Bytes)
    (limit : Option Nat)
    {more otherMore freshMore : List Operation}
    (alike : List.Forall₂ (Operation.Alike setUp.signer) freshMore more)
    (otherAlike : List.Forall₂ (Operation.Alike setUp.signer) freshMore otherMore) :
    let fresh :=
      (turns (setUp.moment freshClock [])
        (.activate freshDraw (.ok key) limit :: freshMore)).map sight
    (turns (run (setUp.moment clock file) past).2
        (.activate draw (.ok key) limit :: more)).map sight = fresh ∧
      (turns (run (setUp.moment otherClock otherFile) otherPast).2
        (.activate otherDraw (.ok key) limit :: otherMore)).map sight = fresh := by
  have freshAlike :
      ∀ clock file past,
        (run (setUp.moment clock file) past).2.clock.elapsed = freshClock.elapsed →
        SetUpAlike (setUp.moment freshClock []) (run (setUp.moment clock file) past).2 :=
    fun clock file past sameTime => {
      elapsed := sameTime
      setUp := by rw [setUp_run, SetUp.setUp_moment, SetUp.setUp_moment]
    }
  have treated : setUp.signer.TreatsAlike key key := .refl _ key
  exact ⟨
    ((freshAlike clock file past sameTime).sights_activate treated freshDraw draw limit
      alike).symm,
    ((freshAlike otherClock otherFile otherPast otherSameTime).sights_activate treated
      freshDraw otherDraw limit otherAlike).symm⟩

set_option maxRecDepth 10000 in
/-- The whole limit can be used again, whether the session before has expired
unnoticed with some of its limit used or is still live with a smaller one. -/
theorem reactivation_erases_past_lingering :
    let late : Clock := { Trial.clock with elapsed := 40000 }
    let fresh : Clock := { Trial.clock with elapsed := 70000 }
    let past : List Operation := [
      .activate Trial.draw (.ok [9]) none,
      .sign (Trial.request "40"),
      .advance 70000
    ]
    let otherPast : List Operation := [
      .activate Trial.draw (.ok [8]) (some 5),
      .advance 30000
    ]
    let more : List Operation := [.sign (Trial.request "100"), .status]
    let seen (moment : Moment) :=
      (turns moment (.activate Trial.draw (.ok [1]) none :: more)).map sight
    let ended := (run (trialSetUp.moment Trial.clock []) past).2
    let otherEnded := (run (trialSetUp.moment late []) otherPast).2
    ended.clock.elapsed = fresh.elapsed ∧
      otherEnded.clock.elapsed = fresh.elapsed ∧
      List.Forall₂ (Operation.Alike Trial.signer) more more ∧
      seen ended = seen (trialSetUp.moment fresh []) ∧
      seen otherEnded = seen (trialSetUp.moment fresh []) ∧
      (seen (trialSetUp.moment fresh [])).map Sight.answer = [
        .activated (.ok ⟨true, 60, "100", "0", "0x00"⟩),
        .signed (.ok ⟨Signature.toHex (.zero 65), "0x00"⟩),
        .reported ⟨true, 60, "100", "100", "0x00"⟩
      ] := by
  intro late fresh past otherPast more seen ended otherEnded
  have sameTime : ended.clock.elapsed = fresh.elapsed := by decide +kernel
  have otherSameTime : otherEnded.clock.elapsed = fresh.elapsed := by decide +kernel
  have alike : List.Forall₂ (Operation.Alike Trial.signer) more more :=
    List.forall₂_same.mpr fun _ _ => .refl _ _
  obtain ⟨erased, otherErased⟩ :=
    reactivation_erases_past trialSetUp Trial.clock late fresh [] [] past otherPast
      sameTime otherSameTime Trial.draw Trial.draw Trial.draw [1] none alike alike
  exact ⟨sameTime, otherSameTime, alike, erased, otherErased, by decide +kernel⟩

end OrderCustody.Desk
