namespace OrderCustody.History

/-!
# Histories

A system takes one input after the other.  Each input gives an output and
leaves the system in its next state.  What happened is kept turn by turn, so
that a property of the present can be stated about the past.
-/

variable {State Input Output : Type}

/-- All inputs, one after the other: what each gives, and the state at the
end. -/
def run (step : State → Input → Output × State) (state : State) :
    List Input → List Output × State
  | [] => ([], state)
  | input :: inputs =>
      let taken := step state input
      let rest := run step taken.2 inputs
      (taken.1 :: rest.1, rest.2)

/-- What happened at one input. -/
structure Turn (State Input Output : Type) where
  before : State
  input : Input
  output : Output
  after : State

/-- The turn that an input takes in a state. -/
def turn (step : State → Input → Output × State) (state : State) (input : Input) :
    Turn State Input Output where
  before := state
  input := input
  output := (step state input).1
  after := (step state input).2

/-- The turns that inputs take, one after the other. -/
def turns (step : State → Input → Output × State) (state : State) :
    List Input → List (Turn State Input Output)
  | [] => []
  | input :: inputs => turn step state input :: turns step (step state input).2 inputs

/-- A sum over turns of what some of them are worth. -/
@[simp] def total (worth? : Turn State Input Output → Option Nat) :
    List (Turn State Input Output) → Nat
  | [] => 0
  | turn :: turns => (worth? turn).getD 0 + total worth? turns

variable {step : State → Input → Output × State}

/-- The turns of a history are its inputs in their order. -/
theorem map_input_turns (state : State) (inputs : List Input) :
    (turns step state inputs).map Turn.input = inputs := by
  induction inputs generalizing state with
  | nil => rfl
  | cons input inputs inductionHypothesis =>
      simp [turns, turn, inductionHypothesis]

/-- The turns of a history give its outputs in their order. -/
theorem map_output_turns (state : State) (inputs : List Input) :
    (turns step state inputs).map Turn.output = (run step state inputs).1 := by
  induction inputs generalizing state with
  | nil => rfl
  | cons input inputs inductionHypothesis =>
      simp [turns, turn, run, inductionHypothesis]

@[simp] theorem total_append
    (worth? : Turn State Input Output → Option Nat)
    (first second : List (Turn State Input Output)) :
    total worth? (first ++ second) = total worth? first + total worth? second := by
  induction first with
  | nil => simp
  | cons turn turns inductionHypothesis =>
      simp [inductionHypothesis, Nat.add_assoc]

/-- The turns of a longer history are those of its two parts. -/
theorem turns_append (state : State) (first second : List Input) :
    turns step state (first ++ second) =
      turns step state first ++ turns step (run step state first).2 second := by
  induction first generalizing state with
  | nil => rfl
  | cons input inputs inductionHypothesis =>
      simp [turns, run, inductionHypothesis]

end OrderCustody.History
