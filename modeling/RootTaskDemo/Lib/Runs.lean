import RootTaskDemo.Lib.Triple

namespace RootTaskDemo.Lib

/-! Runs of a machine that is given one input after the other. -/

variable {ε σ ι : Type}

/-- The run stops at the first input whose step does not return. -/
def runAll (step : ι → EStateM ε σ Unit) : List ι → EStateM ε σ Unit
  | [] => pure ()
  | input :: rest => do
    step input
    runAll step rest

/-- The state in which a run ends, whether it returns or stops. -/
def finalState {α : Type} : EStateM.Result ε σ α → σ
  | .ok _ state => state
  | .error _ state => state

/-- What a run returns, if it does. -/
def returnValue {α : Type} : EStateM.Result ε σ α → Option α
  | .ok value _ => some value
  | .error _ _ => none

/-- Why a run stopped, if it did. -/
def stopReason {α : Type} : EStateM.Result ε σ α → Option ε
  | .ok _ _ => none
  | .error fault _ => some fault

theorem ran_of_returnValue {α : Type} {result : EStateM.Result ε σ α} {value : α}
    (returns : returnValue result = some value) : result = .ok value (finalState result) := by
  cases result with
  | ok found state =>
    cases returns
    rfl
  | error fault state => cases returns

/-- Every step of the run starts in a state that meets `condition` for its input. -/
def MeetsAlong (step : ι → EStateM ε σ Unit) (condition : ι → σ → Prop) : List ι → σ → Prop
  | [], _ => True
  | input :: rest, state => condition input state ∧
    match (step input).run state with
    | .ok _ after => MeetsAlong step condition rest after
    | .error _ _ => True

variable {step : ι → EStateM ε σ Unit} {condition : ι → σ → Prop}

instance decidableMeetsAlong [∀ input state, Decidable (condition input state)] :
    ∀ inputs state, Decidable (MeetsAlong step condition inputs state)
  | [], _ => isTrue trivial
  | input :: rest, state =>
    let later : Decidable (match (step input).run state with
        | .ok _ after => MeetsAlong step condition rest after
        | .error _ _ => True) :=
      match (step input).run state with
      | .ok _ after => decidableMeetsAlong rest after
      | .error _ _ => isTrue trivial
    @instDecidableAnd _ _ _ later

theorem meetsAlong_true (inputs : List ι) (state : σ) :
    MeetsAlong step (fun _ _ => True) inputs state := by
  induction inputs generalizing state with
  | nil => trivial
  | cons input rest ih =>
    refine ⟨trivial, ?_⟩
    split
    · exact ih _
    · trivial

theorem meetsAlong_cons {input : ι} {rest : List ι} {state : σ} (met : condition input state)
    (later : MeetsAlong step condition rest (finalState ((step input).run state))) :
    MeetsAlong step condition (input :: rest) state := by
  refine ⟨met, ?_⟩
  cases ran : (step input).run state with
  | ok value after =>
    rw [ran] at later
    exact later
  | error fault after => trivial

theorem MeetsAlong.strengthen {invariant : σ → Prop} {property : ι → σ → Prop}
    {raised : ε → σ → Prop}
    (kept : ∀ input, Triple (fun state => invariant state ∧ condition input state) (step input)
      (fun _ => invariant) raised)
    (each : ∀ input state, invariant state → condition input state → property input state)
    {inputs : List ι} {state : σ} (start : invariant state)
    (met : MeetsAlong step condition inputs state) :
    MeetsAlong step property inputs state := by
  induction inputs generalizing state with
  | nil => trivial
  | cons input rest ih =>
    obtain ⟨here, later⟩ := met
    refine ⟨each input state start here, ?_⟩
    cases ran : (step input).run state with
    | ok value after =>
      rw [ran] at later
      exact ih ((kept input).of_run ⟨start, here⟩ ran) later
    | error fault after => trivial

/-- An invariant that each step keeps under its condition holds at the end of
every run that meets the conditions. The invariant may count the inputs. -/
theorem runAll_invariant {invariant : Nat → σ → Prop} {raised : ε → σ → Prop}
    (kept : ∀ input count, Triple (fun state => invariant count state ∧ condition input state)
      (step input) (fun _ => invariant (count + 1)) raised)
    (inputs : List ι) (count : Nat) :
    Triple (fun state => invariant count state ∧ MeetsAlong step condition inputs state)
      (runAll step inputs) (fun _ => invariant (count + inputs.length)) raised := by
  induction inputs generalizing count with
  | nil => exact Triple.pure fun state holds => holds.1
  | cons input rest ih =>
    rintro state ⟨holds, met, later⟩
    have reached := kept input count state ⟨holds, met⟩
    rw [runAll, EStateM.run_bind]
    cases outcome : (step input).run state with
    | ok value after =>
      rw [outcome] at reached later
      have finished := ih (count + 1) after ⟨reached, later⟩
      rw [List.length_cons, Nat.add_comm rest.length, ← Nat.add_assoc]
      exact finished
    | error fault after =>
      rw [outcome] at reached
      exact reached

section Results

variable {α : Type} {call : ι → EStateM ε σ α} {rel rel' : ι → σ → α → σ → Prop}
  {invariant : σ → Prop}

/-- Every step of the run that returns is in `rel`: its input, the state it starts in, its result
and the state it leaves. -/
def HoldsAlong (call : ι → EStateM ε σ α) (rel : ι → σ → α → σ → Prop) : List ι → σ → Prop
  | [], _ => True
  | input :: rest, state =>
    match (call input).run state with
    | .ok value after => rel input state value after ∧ HoldsAlong call rel rest after
    | .error _ _ => True

@[simp] theorem holdsAlong_nil (state : σ) : HoldsAlong call rel [] state := trivial

theorem holdsAlong_cons {input : ι} {rest : List ι} {state after : σ} {value : α}
    (ran : (call input).run state = .ok value after) :
    HoldsAlong call rel (input :: rest) state ↔ rel input state value after ∧
      HoldsAlong call rel rest after := by
  rw [HoldsAlong, ran]

theorem holdsAlong_of
    (each : ∀ input state value after, invariant state → (call input).run state = .ok value after →
      rel input state value after ∧ invariant after)
    (inputs : List ι) {state : σ} (start : invariant state) : HoldsAlong call rel inputs state := by
  induction inputs generalizing state with
  | nil => trivial
  | cons input rest ih =>
    unfold HoldsAlong
    cases ran : (call input).run state with
    | error fault after => trivial
    | ok value after =>
      obtain ⟨holds, kept⟩ := each input state value after start ran
      exact ⟨holds, ih kept⟩

end Results

-- Otherwise elaborating a statement about one run would run it.
attribute [irreducible] HoldsAlong

end RootTaskDemo.Lib
