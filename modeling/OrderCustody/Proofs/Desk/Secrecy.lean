import Mathlib.Data.List.Forall2
import OrderCustody.Proofs.Desk.Entries
import OrderCustody.Proofs.Session.Likeness
import OrderCustody.Proofs.Trial

namespace OrderCustody

/-!
# What a desk lets on

A turn shows its answer to the caller and the lines it writes to whoever reads the
trail.  None of this tells which bytes were drawn for sealing, nor anything of a key
but what the signer makes of it: two histories that differ only there show the same,
turn by turn.
-/

/-- What an event says apart from its time. -/
def Audit.Event.undated (event : Event) : String × Entry :=
  (event.instanceId, event.entry)

namespace Desk

/-- The events that a turn adds to the trail. -/
def written (turn : Turn) : List Audit.Event :=
  turn.after.desk.trail.events.drop turn.before.desk.trail.events.length

/-- What can be seen of a turn: the answer, and the lines apart from their times. -/
structure Sight where
  answer : Outcome
  lines : List (String × Audit.Entry)

/-- What can be seen of a turn. -/
def sight (turn : Turn) : Sight where
  answer := turn.output
  lines := (written turn).map Audit.Event.undated

/-- Two loads of a key that come to the same for a signer: both fail alike, or both
give keys that it treats alike. -/
inductive LoadsAlike (signer : Signer) :
    Except KeySource.Fault Bytes → Except KeySource.Fault Bytes → Prop where
  | failed
      (fault : KeySource.Fault) :
      LoadsAlike signer (.error fault) (.error fault)
  | loaded
      {key other : Bytes}
      (treated : signer.TreatsAlike key other) :
      LoadsAlike signer (.ok key) (.ok other)

/-- The same operation, up to the bytes that are drawn and to a key that the signer
treats alike. -/
inductive Operation.Alike (signer : Signer) : Operation → Operation → Prop where
  | activate
      {draw otherDraw : Custody.Draw}
      {loaded otherLoaded : Except KeySource.Fault Bytes}
      {limit : Option Nat}
      (loads : LoadsAlike signer loaded otherLoaded) :
      Alike signer (.activate draw loaded limit) (.activate otherDraw otherLoaded limit)
  | sign
      {request : SignRequest} :
      Alike signer (.sign request) (.sign request)
  | status : Alike signer .status .status
  | destroy : Alike signer .destroy .destroy
  | advance
      {milliseconds : Nat} :
      Alike signer (.advance milliseconds) (.advance milliseconds)

theorem Operation.Alike.refl (signer : Signer) (operation : Operation) :
    Alike signer operation operation := by
  cases operation with
  | activate draw loaded limit =>
      cases loaded with
      | error fault => exact .activate (.failed fault)
      | ok key => exact .activate (.loaded (.refl signer key))
  | sign request => exact .sign
  | status => exact .status
  | destroy => exact .destroy
  | advance milliseconds => exact .advance

/-- How much time an operation takes. -/
def Operation.duration : Operation → Nat
  | .advance milliseconds => milliseconds
  | _ => 0

theorem elapsed_step (moment : Moment) (operation : Operation) :
    (step moment operation).2.clock.elapsed =
      moment.clock.elapsed + operation.duration := by
  cases operation <;> rfl

theorem Operation.Alike.duration
    {signer : Signer}
    {operation other : Operation}
    (alike : Alike signer operation other) :
    other.duration = operation.duration := by
  cases alike <;> rfl

/-! ## Lines of a turn -/

/-- A turn keeps the events before it and adds the one that it owes, if a file is
attached. -/
theorem Leaves.events
    {turn : Turn}
    {entry : Option Audit.Entry}
    (leaves : Leaves turn entry) :
    turn.after.desk.trail.events =
      turn.before.desk.trail.events ++
        if turn.before.desk.trail.file.isSome then (owedEvent? turn).toList else [] := by
  rw [Audit.Trail.events, Audit.Trail.events, leaves.file]
  cases turn.before.desk.trail.file with
  | none => simp
  | some events => simp

/-- The lines of a turn say what the turn owes to the trail. -/
theorem lines_sight
    {turn : Turn}
    {entry : Option Audit.Entry}
    (leaves : Leaves turn entry) :
    (sight turn).lines =
      if turn.before.desk.trail.file.isSome then
        (owed? turn).toList.map fun entry =>
          (turn.before.desk.trail.instanceId, entry)
      else [] := by
  rw [sight, written, leaves.events, List.drop_left]
  cases turn.before.desk.trail.file with
  | none => rfl
  | some events =>
      cases owed : owed? turn with
      | none => simp [owedEvent?, owed]
      | some entry => simp [owedEvent?, owed, Audit.Event.undated]

/-! ## Desks that cannot be told apart -/

/-- How a desk is set up: all that its operations go by and never change. -/
structure SetUp where
  domain : TypedData.Domain
  defaultLimit : Nat
  signer : Signer
  lifetime : Nat
  instanceId : String
  /-- Whether a file is attached to the trail. -/
  attached : Bool

/-- How a desk is set up at a time. -/
def Moment.setUp (moment : Moment) : SetUp where
  domain := moment.desk.domain
  defaultLimit := moment.desk.defaultLimit
  signer := moment.desk.keeper.signer
  lifetime := moment.desk.keeper.lifetime
  instanceId := moment.desk.trail.instanceId
  attached := moment.desk.trail.file.isSome

/-- A desk that was just set up, at a time, with what the file holds that is attached, if
one is. -/
def SetUp.moment (setUp : SetUp) (clock : Clock) (file : List Audit.Event) : Moment :=
  Moment.vacant clock setUp.domain setUp.defaultLimit setUp.signer setUp.lifetime
    ⟨setUp.instanceId, if setUp.attached then some file else none⟩

@[simp] theorem SetUp.setUp_moment
    (setUp : SetUp)
    (clock : Clock)
    (file : List Audit.Event) :
    (setUp.moment clock file).setUp = setUp := by
  obtain ⟨domain, defaultLimit, signer, lifetime, instanceId, attached⟩ := setUp
  cases attached <;> rfl

/-- No operation changes the limit of sessions that name none. -/
theorem Transition.defaultLimit
    {moment next : Moment}
    {operation : Operation}
    {outcome : Outcome}
    (transition : Transition moment operation outcome next) :
    next.desk.defaultLimit = moment.desk.defaultLimit := by
  cases transition with
  | activate activating => cases activating <;> rfl
  | sign signing => cases signing <;> rfl
  | status reporting => cases reporting <;> rfl
  | destroy destroying => cases destroying <;> rfl
  | advance => rfl

/-- No operation changes how the desk is set up. -/
theorem setUp_step (moment : Moment) (operation : Operation) :
    (step moment operation).2.setUp = moment.setUp := by
  have transition := step_cases moment operation
  obtain ⟨domain, signer, lifetime⟩ := transition.configuration
  obtain ⟨entry, leaves⟩ := transition.leaves
  have trail := leaves.trail
  have instanceId :
      (step moment operation).2.desk.trail.instanceId =
        moment.desk.trail.instanceId := by
    rw [trail]
    cases entry <;> rfl
  have attached :
      (step moment operation).2.desk.trail.file.isSome =
        moment.desk.trail.file.isSome := by
    rw [trail]
    cases entry with
    | none => rfl
    | some entry => exact Option.isSome_map
  simp only [Moment.setUp, domain, transition.defaultLimit, signer, lifetime, instanceId,
    attached]

/-- No history changes how the desk is set up. -/
theorem setUp_run (start : Moment) (operations : List Operation) :
    (run start operations).2.setUp = start.setUp :=
  History.run_keeps Moment.setUp setUp_step start operations

/-- Two desks that are set up alike, at the same time. -/
structure SetUpAlike (moment other : Moment) : Prop where
  elapsed : other.clock.elapsed = moment.clock.elapsed
  setUp : other.setUp = moment.setUp

namespace SetUpAlike

variable {moment other : Moment}

theorem domain (alike : SetUpAlike moment other) :
    other.desk.domain = moment.desk.domain :=
  congrArg SetUp.domain alike.setUp

theorem defaultLimit (alike : SetUpAlike moment other) :
    other.desk.defaultLimit = moment.desk.defaultLimit :=
  congrArg SetUp.defaultLimit alike.setUp

theorem signer (alike : SetUpAlike moment other) :
    other.desk.keeper.signer = moment.desk.keeper.signer :=
  congrArg SetUp.signer alike.setUp

theorem lifetime (alike : SetUpAlike moment other) :
    other.desk.keeper.lifetime = moment.desk.keeper.lifetime :=
  congrArg SetUp.lifetime alike.setUp

theorem instanceId (alike : SetUpAlike moment other) :
    other.desk.trail.instanceId = moment.desk.trail.instanceId :=
  congrArg SetUp.instanceId alike.setUp

theorem attached (alike : SetUpAlike moment other) :
    other.desk.trail.file.isSome = moment.desk.trail.file.isSome :=
  congrArg SetUp.attached alike.setUp

theorem step
    {operation otherOperation : Operation}
    (alike : SetUpAlike moment other)
    (sameDuration : otherOperation.duration = operation.duration) :
    SetUpAlike (step moment operation).2 (step other otherOperation).2 where
  elapsed := by rw [elapsed_step, elapsed_step, alike.elapsed, sameDuration]
  setUp := by rw [setUp_step, setUp_step, alike.setUp]

end SetUpAlike

/-- Two desks that are set up alike, with keepers that cannot be told apart. -/
structure Alike (moment other : Moment) : Prop extends SetUpAlike moment other where
  keeper : Keeper.Alike moment.desk.keeper other.desk.keeper

section Steps

variable {moment other : Moment}

/-- Whatever sessions two desks hold, keys that their signer treats alike start the
same in both. -/
theorem SetUpAlike.activate
    (setUp : SetUpAlike moment other)
    {key otherKey : Bytes}
    (treated : moment.desk.keeper.signer.TreatsAlike key otherKey)
    (draw otherDraw : Custody.Draw)
    (limit : Option Nat) :
    (other.desk.activateFrom other.clock otherDraw (.ok otherKey) limit).1 =
        (moment.desk.activateFrom moment.clock draw (.ok key) limit).1 ∧
      Keeper.Alike (moment.desk.activateFrom moment.clock draw (.ok key) limit).2.keeper
        (other.desk.activateFrom other.clock otherDraw (.ok otherKey) limit).2.keeper := by
  obtain ⟨sameResult, alike⟩ :=
    Keeper.alike_activate setUp.signer setUp.lifetime treated moment.clock.elapsed
      (limit.getD moment.desk.defaultLimit) draw otherDraw
  simp only [activateFrom, setUp.elapsed, setUp.defaultLimit]
  generalize moment.desk.keeper.activate _ _ _ _ = taken at sameResult alike ⊢
  generalize other.desk.keeper.activate _ _ _ _ = otherTaken at sameResult alike ⊢
  obtain ⟨result, next⟩ := taken
  obtain ⟨_, otherNext⟩ := otherTaken
  cases sameResult
  cases result with
  | error fault => exact ⟨rfl, alike⟩
  | ok status => exact ⟨rfl, alike⟩

/-- A request to sign is answered the same by both. -/
theorem Alike.signOrder
    (alike : Alike moment other)
    (request : SignRequest) :
    (other.desk.signOrder other.clock request).1 =
        (moment.desk.signOrder moment.clock request).1 ∧
      Keeper.Alike (moment.desk.signOrder moment.clock request).2.keeper
        (other.desk.signOrder other.clock request).2.keeper := by
  simp only [Desk.signOrder, alike.domain, alike.elapsed]
  cases checkOrder moment.desk.domain request with
  | error refusal => exact ⟨rfl, alike.keeper⟩
  | ok checked =>
      obtain ⟨order, digest⟩ := checked
      obtain ⟨sameResult, stillAlike⟩ :=
        alike.keeper.sign moment.clock.elapsed order.makerAmount digest
      dsimp only
      generalize moment.desk.keeper.sign _ _ _ = taken at sameResult stillAlike ⊢
      generalize other.desk.keeper.sign _ _ _ = otherTaken at sameResult stillAlike ⊢
      obtain ⟨result, next⟩ := taken
      obtain ⟨_, otherNext⟩ := otherTaken
      cases sameResult
      cases result with
      | error fault => exact ⟨rfl, stillAlike⟩
      | ok signed => exact ⟨rfl, stillAlike⟩

/-- The report of both is the same. -/
theorem Alike.sessionStatus (alike : Alike moment other) :
    (other.desk.sessionStatus other.clock).1 =
        (moment.desk.sessionStatus moment.clock).1 ∧
      Keeper.Alike (moment.desk.sessionStatus moment.clock).2.keeper
        (other.desk.sessionStatus other.clock).2.keeper := by
  obtain ⟨sameResult, stillAlike⟩ := alike.keeper.observe moment.clock.elapsed
  simp only [Desk.sessionStatus, alike.elapsed]
  generalize moment.desk.keeper.observe _ = taken at sameResult stillAlike ⊢
  generalize other.desk.keeper.observe _ = otherTaken at sameResult stillAlike ⊢
  obtain ⟨⟨status, tornDown⟩, next⟩ := taken
  obtain ⟨_, otherNext⟩ := otherTaken
  cases sameResult
  cases tornDown with
  | false => exact ⟨rfl, stillAlike⟩
  | true => exact ⟨rfl, stillAlike⟩

/-- A destruction finds the same in both. -/
theorem Alike.destroy (alike : Alike moment other) :
    (other.desk.destroy other.clock).1 = (moment.desk.destroy moment.clock).1 ∧
      Keeper.Alike (moment.desk.destroy moment.clock).2.keeper
        (other.desk.destroy other.clock).2.keeper := by
  obtain ⟨sameResult, stillAlike⟩ := alike.keeper.destroy moment.clock.elapsed
  simp only [Desk.destroy, alike.elapsed]
  generalize moment.desk.keeper.destroy _ = taken at sameResult stillAlike ⊢
  generalize other.desk.keeper.destroy _ = otherTaken at sameResult stillAlike ⊢
  obtain ⟨found, next⟩ := taken
  obtain ⟨_, otherNext⟩ := otherTaken
  cases sameResult
  cases found with
  | empty => exact ⟨rfl, stillAlike⟩
  | destroyed => exact ⟨rfl, stillAlike⟩
  | expired => exact ⟨rfl, stillAlike⟩

/-- Alike operations are answered the same and leave desks that cannot be told
apart. -/
theorem Alike.step
    (alike : Alike moment other)
    {operation otherOperation : Operation}
    (operationAlike :
      Operation.Alike moment.desk.keeper.signer operation otherOperation) :
    (Desk.step other otherOperation).1 = (Desk.step moment operation).1 ∧
      Alike (Desk.step moment operation).2 (Desk.step other otherOperation).2 := by
  have setUp := alike.toSetUpAlike.step operationAlike.duration
  suffices same :
      (Desk.step other otherOperation).1 = (Desk.step moment operation).1 ∧
        Keeper.Alike (Desk.step moment operation).2.desk.keeper
          (Desk.step other otherOperation).2.desk.keeper from
    ⟨same.1, { setUp with keeper := same.2 }⟩
  cases operationAlike with
  | @activate draw otherDraw _ _ limit loads =>
      cases loads with
      | failed fault => exact ⟨rfl, alike.keeper⟩
      | loaded treated =>
          obtain ⟨sameResult, stillAlike⟩ :=
            alike.toSetUpAlike.activate treated draw otherDraw limit
          exact ⟨congrArg Outcome.activated sameResult, stillAlike⟩
  | @sign request =>
      obtain ⟨sameResult, stillAlike⟩ := alike.signOrder request
      exact ⟨congrArg Outcome.signed sameResult, stillAlike⟩
  | status =>
      obtain ⟨sameReport, stillAlike⟩ := alike.sessionStatus
      exact ⟨congrArg Outcome.reported sameReport, stillAlike⟩
  | destroy =>
      obtain ⟨sameFound, stillAlike⟩ := alike.destroy
      exact ⟨congrArg Outcome.destroyed sameFound, stillAlike⟩
  | advance => exact ⟨rfl, alike.keeper⟩

end Steps

/-! ## What can be seen of alike turns -/

section Owed

variable {before after otherBefore otherAfter : Moment}

/-- What the start of a session owes is read off its answer. -/
theorem owed?_activate_eq
    {draw otherDraw : Custody.Draw}
    {loaded otherLoaded : Except KeySource.Fault Bytes}
    {limit : Option Nat}
    (output : Outcome) :
    owed? ⟨otherBefore, .activate otherDraw otherLoaded limit, output, otherAfter⟩ =
      owed? ⟨before, .activate draw loaded limit, output, after⟩ := by
  cases output with
  | activated result => cases result <;> rfl
  | _ => rfl

/-- Turns owe the same if they were asked and answered alike and found and left
keepers that cannot be told apart. -/
theorem owed?_eq_of_alike
    {signer : Signer}
    {input otherInput : Operation}
    (inputs : Operation.Alike signer input otherInput)
    (found : Keeper.Alike before.desk.keeper otherBefore.desk.keeper)
    (left : Keeper.Alike after.desk.keeper otherAfter.desk.keeper)
    (output : Outcome) :
    owed? ⟨otherBefore, otherInput, output, otherAfter⟩ =
      owed? ⟨before, input, output, after⟩ := by
  cases inputs with
  | activate => exact owed?_activate_eq output
  | sign =>
      cases output with
      | signed result =>
          cases result with
          | ok response =>
              have sameUsed :=
                left.map_held (fun session => Decimal.text session.used) fun _ _ => rfl
              simp only [owed?, sameUsed]
          | error refusal => cases refusal <;> rfl
      | _ => rfl
  | status =>
      have sameFound := found.map_held (fun _ => ()) fun _ _ => rfl
      have sameLeft := left.map_held (fun _ => ()) fun _ _ => rfl
      have foundOne := congrArg Option.isSome sameFound
      have leftNone := congrArg Option.isNone sameLeft
      simp only [Option.isSome_map, Option.isNone_map] at foundOne leftNone
      cases output with
      | reported report => simp only [owed?, foundOne, leftNone]
      | _ => rfl
  | destroy =>
      cases output with
      | destroyed torn => exact found.map_held _ fun _ _ => rfl
      | _ => rfl
  | advance => rfl

end Owed

/-- Turns of desks that are set up alike look the same if they are answered the same
and owe the same. -/
theorem sight_step_eq
    {moment other : Moment}
    (setUp : SetUpAlike moment other)
    {operation otherOperation : Operation}
    (outputs : (step other otherOperation).1 = (step moment operation).1)
    (owed :
      owed? (History.turn step other otherOperation) =
        owed? (History.turn step moment operation)) :
    sight (History.turn step moment operation) =
      sight (History.turn step other otherOperation) := by
  obtain ⟨_, leaves⟩ := (step_cases moment operation).leaves
  obtain ⟨_, otherLeaves⟩ := (step_cases other otherOperation).leaves
  have lines :
      (sight (History.turn step moment operation)).lines =
        (sight (History.turn step other otherOperation)).lines := by
    have otherLines := lines_sight otherLeaves
    change (sight (History.turn step other otherOperation)).lines =
      if other.desk.trail.file.isSome then
        (owed? (History.turn step other otherOperation)).toList.map fun entry =>
          (other.desk.trail.instanceId, entry)
      else [] at otherLines
    rw [otherLines, owed, setUp.attached, setUp.instanceId]
    exact lines_sight leaves
  exact congrArg₂ Sight.mk outputs.symm lines

/-- Alike histories from desks that cannot be told apart look the same, turn by
turn. -/
theorem Alike.sights
    {moment other : Moment}
    (alike : Alike moment other)
    {operations otherOperations : List Operation}
    (operationsAlike :
      List.Forall₂ (Operation.Alike moment.desk.keeper.signer) operations
        otherOperations) :
    (turns moment operations).map sight = (turns other otherOperations).map sight := by
  have simulated :
      ∀ state otherState operation otherOperation,
        Alike state otherState ∧
            state.desk.keeper.signer = moment.desk.keeper.signer →
        Operation.Alike moment.desk.keeper.signer operation otherOperation →
        sight (History.turn Desk.step state operation) =
            sight (History.turn Desk.step otherState otherOperation) ∧
          Alike (Desk.step state operation).2 (Desk.step otherState otherOperation).2 ∧
            (Desk.step state operation).2.desk.keeper.signer =
              moment.desk.keeper.signer := by
    rintro state otherState operation otherOperation ⟨stateAlike, sameSigner⟩
      operationAlike
    rw [← sameSigner] at operationAlike ⊢
    obtain ⟨sameOutput, stillAlike⟩ := stateAlike.step operationAlike
    have sameOwed :
        owed? (History.turn Desk.step otherState otherOperation) =
          owed? (History.turn Desk.step state operation) := by
      rw [History.turn, sameOutput]
      exact owed?_eq_of_alike operationAlike stateAlike.keeper stillAlike.keeper _
    exact ⟨sight_step_eq stateAlike.toSetUpAlike sameOutput sameOwed, stillAlike,
      (step_cases state operation).configuration.2.1⟩
  exact (History.turns_simulation _ _ sight sight simulated ⟨alike, rfl⟩
    operationsAlike).1

/-- Sealing a key and loading it gives the key, whatever was drawn. -/
theorem load_ofMaterial
    (draw : Custody.Draw)
    (key : Bytes)
    (name : String)
    (files : Files) :
    ((Custody.SealedKey.ofMaterial draw key).mapError KeySource.Fault.custody >>=
        fun sealedKey => KeySource.load files (.environment name sealedKey)) =
      if key = [] then .error (.custody .empty) else .ok key := by
  by_cases empty : key = []
  · subst empty
    rfl
  · obtain ⟨sealedKey, sealing, revealing⟩ :=
      Custody.SealedKey.exists_ofMaterial_eq_ok draw empty
    simp only [sealing, empty, ↓reduceIte, Except.mapError, bind, Except.bind,
      KeySource.load, revealing]

/-- What a variable's key is loaded as does not depend on the bytes that it was sealed
with. -/
theorem load_consume_eq
    (draw otherDraw : Custody.Draw)
    (environment : Environment)
    (name : String)
    (files : Files) :
    ((KeySource.consume draw environment name).1 >>= KeySource.load files) =
      ((KeySource.consume otherDraw environment name).1 >>= KeySource.load files) := by
  unfold KeySource.consume
  cases environment.get? name with
  | none => rfl
  | some text => simp only [bind_assoc, pure_bind, load_ofMaterial]

/-- The desk for trials as it is set up, with a file attached. -/
def trialSetUp : SetUp :=
  { Moment.setUp ⟨Trial.clock, Trial.desk⟩ with attached := true }

/--
What can be seen of a desk depends on keys only through the signer, and on the bytes
that are drawn not at all.

Take two histories that differ only in the bytes drawn for sealing, and in keys that
were loaded, none of them empty, of which the signer derives the same address and
makes the same of every digest.  From the same desk, whatever its signer and
settings, they look the same turn by turn: every answer, refusals and reports
included, and every line of the trail apart from its time.  Nor do the bytes that a
key was sealed with when it was taken out of a variable show in what is loaded.
-/
theorem keys_and_draws_unseen
    (setUp : SetUp)
    (clock : Clock)
    (file : List Audit.Event)
    {operations otherOperations : List Operation}
    (alike :
      List.Forall₂ (Operation.Alike setUp.signer) operations otherOperations) :
    (turns (setUp.moment clock file) operations).map sight =
        (turns (setUp.moment clock file) otherOperations).map sight ∧
      ∀ draw otherDraw environment name files,
        ((KeySource.consume draw environment name).1 >>= KeySource.load files) =
          ((KeySource.consume otherDraw environment name).1 >>=
            KeySource.load files) := by
  have startAlike : Alike (setUp.moment clock file) (setUp.moment clock file) :=
    { elapsed := rfl, setUp := rfl, keeper := .vacant }
  exact ⟨startAlike.sights alike, load_consume_eq⟩

set_option maxRecDepth 10000 in
/-- Another key, longer and sealed with other bytes, shows in none of four lines. -/
theorem keys_and_draws_unseen_resealed :
    let otherDraw : Custody.Draw := ⟨.ofNat 32 7, .ofNat 12 8, .ofNat 32 9⟩
    let history (draw : Custody.Draw) (key : Bytes) : List Operation := [
      .activate draw (.ok key) none,
      .sign (Trial.request "40"),
      .sign (Trial.request "70"),
      .advance 60000,
      .status
    ]
    let start := trialSetUp.moment Trial.clock []
    List.Forall₂ (Operation.Alike Trial.signer) (history Trial.draw [1])
        (history otherDraw [2, 3]) ∧
      (turns start (history Trial.draw [1])).map sight =
        (turns start (history otherDraw [2, 3])).map sight ∧
      ((turns start (history otherDraw [2, 3])).map sight).map
        (fun shown => shown.lines.length) = [1, 1, 1, 0, 1] := by
  intro otherDraw history start
  have treated : Trial.signer.TreatsAlike [1] [2, 3] :=
    ⟨by simp, rfl, fun _ => rfl⟩
  have alike :
      List.Forall₂ (Operation.Alike Trial.signer) (history Trial.draw [1])
        (history otherDraw [2, 3]) :=
    .cons (.activate (.loaded treated)) (List.forall₂_same.mpr fun _ _ => .refl _ _)
  exact ⟨alike, (keys_and_draws_unseen trialSetUp _ _ alike).1, by decide +kernel⟩

end Desk

end OrderCustody
