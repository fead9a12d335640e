import Mathlib.Data.List.Basic
import OrderCustody.History

namespace OrderCustody.History

/-!
# Reasoning about histories

Cutting a history in two, carrying an invariant through one, and running two
systems side by side.
-/

variable {State Input Output : Type}
variable {step : State → Input → Output × State}

/-- Whatever comes first in the turns of a history is a history of its own, and
what follows continues it. -/
theorem exists_of_turns_eq_append
    {state : State}
    {inputs : List Input}
    {earlier later : List (Turn State Input Output)}
    (split : turns step state inputs = earlier ++ later) :
    ∃ first second,
      inputs = first ++ second ∧
        turns step state first = earlier ∧
        turns step (run step state first).2 second = later := by
  induction earlier generalizing state inputs with
  | nil => exact ⟨[], inputs, rfl, rfl, split⟩
  | cons head earlier inductionHypothesis =>
      cases inputs with
      | nil => simp [turns] at split
      | cons input inputs =>
          simp only [turns, List.cons_append, List.cons.injEq] at split
          obtain ⟨first, second, inputsShape, firstTurns, secondTurns⟩ :=
            inductionHypothesis split.2
          refine ⟨input :: first, second, ?_, ?_, secondTurns⟩
          · rw [inputsShape, List.cons_append]
          · rw [turns, split.1, firstTurns]

/-- A turn of a history is taken at the end of the history before it. -/
theorem exists_of_turns_eq_cons
    {state : State}
    {inputs : List Input}
    {earlier later : List (Turn State Input Output)}
    {taken : Turn State Input Output}
    (split : turns step state inputs = earlier ++ taken :: later) :
    ∃ first input second,
      inputs = first ++ input :: second ∧
        turns step state first = earlier ∧
        taken = turn step (run step state first).2 input := by
  obtain ⟨first, rest, inputsShape, firstTurns, restTurns⟩ :=
    exists_of_turns_eq_append split
  cases rest with
  | nil => simp [turns] at restTurns
  | cons input second =>
      simp only [turns, List.cons.injEq] at restTurns
      exact ⟨first, input, second, inputsShape, firstTurns, restTurns.1.symm⟩

/-- Every turn of a history is taken at the end of some history. -/
theorem exists_of_mem_turns
    {state : State}
    {inputs : List Input}
    {taken : Turn State Input Output}
    (member : taken ∈ turns step state inputs) :
    ∃ first input, taken = turn step (run step state first).2 input := by
  obtain ⟨earlier, later, split⟩ := List.append_of_mem member
  obtain ⟨first, input, _, _, _, same⟩ := exists_of_turns_eq_cons split
  exact ⟨first, input, same⟩

/-- What no step changes, no history changes. -/
theorem run_keeps
    {Kept : Type}
    (kept : State → Kept)
    (keeps : ∀ state input, kept (step state input).2 = kept state)
    (state : State)
    (inputs : List Input) :
    kept (run step state inputs).2 = kept state := by
  induction inputs generalizing state with
  | nil => rfl
  | cons input inputs inductionHypothesis =>
      calc
        kept (run step state (input :: inputs)).2 = kept (step state input).2 :=
          inductionHypothesis (step state input).2
        _ = kept state := keeps state input

/-- What each turn preserves about the past and the present, a whole history
preserves. -/
theorem run_invariant
    (Invariant : List (Turn State Input Output) → State → Prop)
    {past : List (Turn State Input Output)}
    {state : State}
    (holds : Invariant past state)
    (inputs : List Input)
    (preserved :
      ∀ past state,
        ∀ input ∈ inputs,
          Invariant past state →
          Invariant (past ++ [turn step state input]) (step state input).2) :
    Invariant (past ++ turns step state inputs) (run step state inputs).2 := by
  induction inputs generalizing past state with
  | nil => simpa [turns, run] using holds
  | cons input inputs inductionHypothesis =>
      have holdsNext :=
        preserved past state input List.mem_cons_self holds
      have preservedLater :=
        fun past state later member =>
          preserved past state later (List.mem_cons_of_mem input member)
      simpa [turns, run] using inductionHypothesis holdsNext preservedLater

/-- What is left of turns if some of them are deleted, none of them without a given
property. -/
inductive Thinned (Deletable : Turn State Input Output → Prop) :
    List (Turn State Input Output) → List (Turn State Input Output) → Prop where
  | done :
      Thinned Deletable [] []
  | kept
      {turn : Turn State Input Output}
      {turns rest : List (Turn State Input Output)}
      (thinned : Thinned Deletable turns rest) :
      Thinned Deletable (turn :: turns) (turn :: rest)
  | deleted
      {turn : Turn State Input Output}
      {turns rest : List (Turn State Input Output)}
      (deletable : Deletable turn)
      (thinned : Thinned Deletable turns rest) :
      Thinned Deletable (turn :: turns) rest

/-- Without inputs that change nothing, a history takes the other turns as before. -/
theorem turns_of_thinned
    {Deletable : Turn State Input Output → Prop}
    (idle :
      ∀ state input, Deletable (turn step state input) → (step state input).2 = state)
    {state : State}
    {inputs : List Input}
    {rest : List (Turn State Input Output)}
    (thinned : Thinned Deletable (turns step state inputs) rest) :
    turns step state (rest.map Turn.input) = rest ∧
      (run step state (rest.map Turn.input)).2 = (run step state inputs).2 := by
  induction inputs generalizing state rest with
  | nil =>
      cases thinned
      exact ⟨rfl, rfl⟩
  | cons input inputs inductionHypothesis =>
      cases thinned with
      | @kept _ _ rest thinned =>
          obtain ⟨sameTurns, sameEnd⟩ := inductionHypothesis thinned
          refine ⟨?_, sameEnd⟩
          calc
            turns step state (input :: rest.map Turn.input) =
                turn step state input ::
                  turns step (step state input).2 (rest.map Turn.input) := rfl
            _ = turn step state input :: rest := by rw [sameTurns]
      | deleted deletable thinned =>
          have unchanged := idle state input deletable
          rw [unchanged] at thinned
          obtain ⟨sameTurns, sameEnd⟩ := inductionHypothesis thinned
          refine ⟨sameTurns, ?_⟩
          rw [sameEnd, run, unchanged]

/-- Two systems whose turns look alike in related states, and that stay related, look
alike throughout. -/
theorem turns_simulation
    {OtherState OtherInput OtherOutput Look : Type}
    {otherStep : OtherState → OtherInput → OtherOutput × OtherState}
    (Related : State → OtherState → Prop)
    (Alike : Input → OtherInput → Prop)
    (look : Turn State Input Output → Look)
    (otherLook : Turn OtherState OtherInput OtherOutput → Look)
    (simulated :
      ∀ state other input otherInput,
        Related state other →
        Alike input otherInput →
        look (turn step state input) = otherLook (turn otherStep other otherInput) ∧
          Related (step state input).2 (otherStep other otherInput).2)
    {state : State}
    {other : OtherState}
    (related : Related state other)
    {inputs : List Input}
    {otherInputs : List OtherInput}
    (alike : List.Forall₂ Alike inputs otherInputs) :
    (turns step state inputs).map look =
        (turns otherStep other otherInputs).map otherLook ∧
      Related (run step state inputs).2 (run otherStep other otherInputs).2 := by
  induction alike generalizing state other with
  | nil => exact ⟨rfl, related⟩
  | @cons input otherInput inputs otherInputs inputAlike _ inductionHypothesis =>
      obtain ⟨sameLook, stillRelated⟩ :=
        simulated state other input otherInput related inputAlike
      obtain ⟨sameLooks, relatedAtEnd⟩ := inductionHypothesis stillRelated
      refine ⟨?_, relatedAtEnd⟩
      simp only [turns, List.map_cons, sameLook, sameLooks]

/-- Two systems that answer alike in related states, and stay related, answer
alike throughout. -/
theorem run_simulation
    {OtherState OtherInput OtherOutput Answer : Type}
    {otherStep : OtherState → OtherInput → OtherOutput × OtherState}
    (Related : State → OtherState → Prop)
    (Alike : Input → OtherInput → Prop)
    (view : Output → Answer)
    (otherView : OtherOutput → Answer)
    (simulated :
      ∀ state other input otherInput,
        Related state other →
        Alike input otherInput →
        view (step state input).1 = otherView (otherStep other otherInput).1 ∧
          Related (step state input).2 (otherStep other otherInput).2)
    {state : State}
    {other : OtherState}
    (related : Related state other)
    {inputs : List Input}
    {otherInputs : List OtherInput}
    (alike : List.Forall₂ Alike inputs otherInputs) :
    (run step state inputs).1.map view =
        (run otherStep other otherInputs).1.map otherView ∧
      Related (run step state inputs).2 (run otherStep other otherInputs).2 := by
  have simulation :=
    turns_simulation Related Alike (view ∘ Turn.output) (otherView ∘ Turn.output)
      simulated related alike
  simpa only [← map_output_turns, List.map_map] using simulation

end OrderCustody.History
