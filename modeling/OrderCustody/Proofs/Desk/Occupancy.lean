import OrderCustody.Proofs.Desk.Entries
import OrderCustody.Proofs.Trial
import OrderCustody.Secp256k1.Signer

/-!
# What the trail says of the session

From the trail one wants to know whether a session is held: one is, if the last event
that marks a start or an end marks a start.  There is one way for a session to go
without a mark: a key that is refused takes the place of the session and starts none.
So the trail is right exactly as long as the key that was loaded last was accepted.
-/

namespace OrderCustody.Audit

/-- Whether an event of this kind marks the start or the end of a session. -/
def Kind.isMark : Kind → Bool
  | sessionActivated | sessionDestroyed | sessionExpired => true
  | orderSigned | signRejected => false

/-- The last mark among events. -/
def lastMark? (events : List Event) : Option Kind :=
  ((events.map (·.entry.kind)).filter Kind.isMark).getLast?

theorem lastMark?_concat_mark
    (events : List Event)
    {event : Event}
    (mark : event.entry.kind.isMark = true) :
    lastMark? (events ++ [event]) = some event.entry.kind := by
  simp [lastMark?, mark]

theorem lastMark?_concat_other
    (events : List Event)
    {event : Event}
    (other : event.entry.kind.isMark = false) :
    lastMark? (events ++ [event]) = lastMark? events := by
  simp [lastMark?, other]

end OrderCustody.Audit

namespace OrderCustody.Desk

open Audit (lastMark? lastMark?_concat_mark lastMark?_concat_other)

/-- Whether the key that was loaded last was accepted, if any was loaded. -/
def lastKeyAccepted? (past : List Turn) : Option Bool :=
  (past.filterMap keyAccepted?).getLast?

theorem lastKeyAccepted?_concat_key
    (past : List Turn)
    {turn : Turn}
    {accepted : Bool}
    (key : keyAccepted? turn = some accepted) :
    lastKeyAccepted? (past ++ [turn]) = some accepted := by
  simp [lastKeyAccepted?, key]

theorem lastKeyAccepted?_concat_other
    (past : List Turn)
    {turn : Turn}
    (noKey : keyAccepted? turn = none) :
    lastKeyAccepted? (past ++ [turn]) = lastKeyAccepted? past := by
  simp [lastKeyAccepted?, noKey]

/-- A session is held just when the last mark is a start and the last key was
accepted. -/
def Told (past : List Turn) (held : Option Session) : Prop :=
  held.isSome = true ↔
    lastMark? (past.filterMap owedEvent?) = some .sessionActivated ∧
      lastKeyAccepted? past = some true

namespace Told

variable {past : List Turn}

theorem vacant : Told [] none := by
  simp [Told, lastMark?]

theorem step
    {turn : Turn}
    {entry : Option Audit.Entry}
    (leaves : Leaves turn entry)
    (told : Told past turn.before.desk.keeper.held) :
    Told (past ++ [turn]) turn.after.desk.keeper.held := by
  unfold Told at told ⊢
  rw [owedEvents_concat, owedEvent?, leaves.owed]
  cases leaves.effect with
  | kept noKey held =>
      rw [held, lastKeyAccepted?_concat_other past noKey]
      simpa using told
  | displaced refused unheld =>
      rw [unheld, lastKeyAccepted?_concat_key past refused]
      simp
  | started accepted kind _ _ _ held =>
      rw [held, lastKeyAccepted?_concat_key past accepted]
      simp only [Option.map_some, Option.toList_some]
      rw [lastMark?_concat_mark _ (by simp [kind, Audit.Kind.isMark])]
      simp [kind]
  | signed noKey kind _ _ _ _ heldBefore held =>
      rw [held, lastKeyAccepted?_concat_other past noKey]
      simp only [Option.map_some, Option.toList_some]
      rw [lastMark?_concat_other _ (by simp [kind, Audit.Kind.isMark])]
      simpa [heldBefore] using told
  | rejected noKey kind held =>
      rw [held, lastKeyAccepted?_concat_other past noKey]
      simp only [Option.map_some, Option.toList_some]
      rw [lastMark?_concat_other _ (by simp [kind, Audit.Kind.isMark])]
      exact told
  | closed noKey kind unheld =>
      rw [unheld, lastKeyAccepted?_concat_other past noKey]
      simp only [Option.map_some, Option.toList_some]
      rcases kind with destroyed | expired
      · rw [lastMark?_concat_mark _ (by simp [destroyed, Audit.Kind.isMark])]
        simp [destroyed]
      · rw [lastMark?_concat_mark _ (by simp [expired, Audit.Kind.isMark])]
        simp [expired]

theorem run
    {start : Moment}
    (unheld : start.desk.keeper.held = none)
    (operations : List Operation) :
    Told (turns start operations) (Desk.run start operations).2.desk.keeper.held := by
  have told : Told [] start.desk.keeper.held := unheld ▸ vacant
  refine
    History.run_invariant (fun past moment => Told past moment.desk.keeper.held)
      told operations ?_
  intro past moment operation _ told
  obtain ⟨entry, leaves⟩ := (step_cases moment operation).leaves
  exact told.step leaves

end Told

/--
When the trail tells whether a session is held, in every history of a desk with a new
file attached.

A session is held exactly if the last event that marks a start or an end of a session
marks a start, and the key that was loaded last was accepted.  So the trail is right
but for one case: a key was refused while it said that a session had started.
-/
theorem held_iff_lastMark_and_lastKey
    (clock : Clock)
    (domain : TypedData.Domain)
    (defaultLimit : Nat)
    (signer : Signer)
    (lifetime : Nat)
    (instanceId : String)
    (operations : List Operation) :
    let start :=
      Moment.vacant clock domain defaultLimit signer lifetime ⟨instanceId, some []⟩
    let reached := (run start operations).2
    reached.desk.keeper.held.isSome = true ↔
      lastMark? reached.desk.trail.events = some .sessionActivated ∧
        lastKeyAccepted? (turns start operations) = some true := by
  intro start reached
  have filed :
      reached.desk.trail.events = (turns start operations).filterMap owedEvent? := by
    have attached : start.desk.trail.file = some [] := rfl
    have file := file_run attached operations
    simp only [Audit.Trail.events, reached, file, List.nil_append, Option.getD_some]
  rw [filed]
  exact Told.run rfl operations

set_option maxRecDepth 10000 in
/-- Zero is no private key: the session that it was to replace is gone, and nothing in
the trail says so. -/
theorem unheld_though_lastMark_activated :
    let start :=
      Moment.vacant Trial.clock Trial.desk.domain 100 Secp256k1.signer 60000
        ⟨"desk", some []⟩
    let operations : List Operation := [
      .activate Trial.draw (.ok (Bytes.ofNat 32 1)) none,
      .activate Trial.draw (.ok (Bytes.ofNat 32 0)) none
    ]
    let reached := (run start operations).2
    lastMark? reached.desk.trail.events = some .sessionActivated ∧
      reached.desk.keeper.held = none := by
  decide +kernel

end OrderCustody.Desk
