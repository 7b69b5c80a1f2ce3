import Mathlib.Algebra.Order.Ring.Int

namespace RootTaskDemo.Lib

/-! Pre- and postconditions for programs that carry a state and may stop with a
fault. `Triple pre program post raised` speaks about every run from a state in
`pre`: one that returns ends in `post`, one that stops satisfies `raised`. -/

variable {ε σ α β : Type}

def Triple (pre : σ → Prop) (program : EStateM ε σ α)
    (post : α → σ → Prop) (raised : ε → σ → Prop) : Prop :=
  ∀ state, pre state →
    match program.run state with
    | .ok value after => post value after
    | .error fault after => raised fault after

variable {pre pre' : σ → Prop} {program : EStateM ε σ α}
  {post post' : α → σ → Prop} {raised raised' : ε → σ → Prop}

theorem Triple.pure {value : α} (holds : ∀ state, pre state → post value state) :
    Triple pre (Pure.pure value) post raised := holds

theorem Triple.throw {fault : ε} (holds : ∀ state, pre state → raised fault state) :
    Triple pre (MonadExcept.throw fault : EStateM ε σ α) post raised := holds

theorem Triple.get (state : σ) :
    Triple (fun now => now = state) (MonadState.get : EStateM ε σ σ)
      (fun value after => value = state ∧ after = state) raised :=
  fun _ same => ⟨same, same⟩

theorem Triple.bind {middle : α → σ → Prop} {next : α → EStateM ε σ β} {last : β → σ → Prop}
    (first : Triple pre program middle raised)
    (rest : ∀ value, Triple (middle value) (next value) last raised) :
    Triple pre (program >>= next) last raised := by
  intro state holds
  have reached := first state holds
  rw [EStateM.run_bind]
  cases outcome : program.run state with
  | ok value after =>
    rw [outcome] at reached
    exact rest value after reached
  | error fault after =>
    rw [outcome] at reached
    exact reached

theorem Triple.weaken (triple : Triple pre' program post' raised')
    (strong : ∀ state, pre state → pre' state)
    (weak : ∀ value state, post' value state → post value state)
    (weakRaised : ∀ fault state, raised' fault state → raised fault state) :
    Triple pre program post raised := by
  intro state holds
  have reached := triple state (strong state holds)
  cases outcome : program.run state with
  | ok value after =>
    rw [outcome] at reached
    exact weak value after reached
  | error fault after =>
    rw [outcome] at reached
    exact weakRaised fault after reached

/-- Programs are deterministic, so two specifications of one program hold of
the same outcome. -/
theorem Triple.both (left : Triple pre program post raised)
    (right : Triple pre' program post' raised') :
    Triple (fun state => pre state ∧ pre' state) program
      (fun value state => post value state ∧ post' value state)
      (fun fault state => raised fault state ∧ raised' fault state) := by
  intro state holds
  have reachedLeft := left state holds.1
  have reachedRight := right state holds.2
  cases outcome : program.run state with
  | ok value after =>
    rw [outcome] at reachedLeft reachedRight
    exact ⟨reachedLeft, reachedRight⟩
  | error fault after =>
    rw [outcome] at reachedLeft reachedRight
    exact ⟨reachedLeft, reachedRight⟩

theorem Triple.of_run (triple : Triple pre program post raised) {state after : σ} {value : α}
    (holds : pre state) (ran : program.run state = .ok value after) : post value after := by
  have reached := triple state holds
  rwa [ran] at reached

theorem Triple.of_fault (triple : Triple pre program post raised) {state after : σ} {fault : ε}
    (holds : pre state) (ran : program.run state = .error fault after) : raised fault after := by
  have reached := triple state holds
  rwa [ran] at reached

theorem Triple.returns {post : α → σ → Prop} (triple : Triple pre program post fun _ _ => False)
    {state : σ} (holds : pre state) :
    ∃ value after, program.run state = .ok value after ∧ post value after := by
  have reached := triple state holds
  cases outcome : program.run state with
  | ok value after =>
    rw [outcome] at reached
    exact ⟨value, after, rfl, reached⟩
  | error fault after =>
    rw [outcome] at reached
    exact reached.elim

end RootTaskDemo.Lib
