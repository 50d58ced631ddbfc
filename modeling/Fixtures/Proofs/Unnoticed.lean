import Fixtures.Proofs.Outcome

/-!
# Changes that go unnoticed

An operation does not notice a change of the state (`Unnoticed`) if it may be made before the
operation or after it: the operation ends in the same way, and what it leaves differs by the change
alone.  Operations in a row do not notice what none of them notices.  For an operation that only
works in certain states, the property of these states is carried along.
-/

namespace Fixtures

variable {ε σ α β : Type}

/-- The same ending, with a change of the state that is left. -/
def carry (change : σ → σ) : EStateM.Result ε σ α → EStateM.Result ε σ α
  | .ok answer left => .ok answer (change left)
  | .error error left => .error error (change left)

/-- The answer or the error of a result. -/
def ending : EStateM.Result ε σ α → Except ε α
  | .ok answer _ => .ok answer
  | .error error _ => .error error

@[simp] theorem ending_carry (change : σ → σ) (result : EStateM.Result ε σ α) :
    ending (carry change result) = ending result := by
  cases result <;> rfl

/-- From this state the operation does not notice the change, and it leaves a state with `P`. -/
structure UnnoticedAt (P : σ → Prop) (change : σ → σ) (operation : EStateM ε σ α) (state : σ) :
    Prop where
  result : operation (change state) = carry change (operation state)
  keeps : P (after operation state)

/-- From states with `P` the operation does not notice the change, and it leaves such states. -/
def Unnoticed (P : σ → Prop) (change : σ → σ) (operation : EStateM ε σ α) : Prop :=
  ∀ state, P state → UnnoticedAt P change operation state

section

variable {P : σ → Prop} {change : σ → σ} {state : σ}

theorem UnnoticedAt.of_ok {operation : EStateM ε σ α} {answer : α} {left : σ}
    (h : operation state = .ok answer left)
    (h' : operation (change state) = .ok answer (change left)) (hp : P left) :
    UnnoticedAt P change operation state := by
  refine ⟨?_, ?_⟩
  · rw [h, h']
    rfl
  · rw [after_of_ok h]
    exact hp

theorem UnnoticedAt.of_error {operation : EStateM ε σ α} {error : ε} {left : σ}
    (h : operation state = .error error left)
    (h' : operation (change state) = .error error (change left)) (hp : P left) :
    UnnoticedAt P change operation state := by
  refine ⟨?_, ?_⟩
  · rw [h, h']
    rfl
  · rw [after_of_error h]
    exact hp

theorem UnnoticedAt.after {operation : EStateM ε σ α}
    (h : UnnoticedAt P change operation state) :
    after operation (change state) = change (after operation state) := by
  unfold Fixtures.after
  rw [h.result]
  cases operation state <;> rfl

theorem UnnoticedAt.ending {operation : EStateM ε σ α}
    (h : UnnoticedAt P change operation state) :
    Fixtures.ending (operation (change state)) = Fixtures.ending (operation state) := by
  rw [h.result, ending_carry]

theorem UnnoticedAt.bind {first : EStateM ε σ α} {next : α → EStateM ε σ β}
    (hf : UnnoticedAt P change first state) (hn : ∀ answer, Unnoticed P change (next answer)) :
    UnnoticedAt P change (first >>= next) state := by
  have hr := hf.result
  have hk := hf.keeps
  cases hs : first state with
  | ok answer middle =>
    rw [hs] at hr
    rw [after_of_ok hs] at hk
    have hm := hn answer middle hk
    refine ⟨?_, ?_⟩
    · rw [bind_of_ok hr, bind_of_ok hs]
      exact hm.result
    · rw [after_bind_of_ok hs]
      exact hm.keeps
  | error error left =>
    rw [hs] at hr
    rw [after_of_error hs] at hk
    refine ⟨?_, ?_⟩
    · rw [bind_of_error hr, bind_of_error hs]
      rfl
    · rw [after_bind_of_error hs]
      exact hk

namespace Unnoticed

theorem of_result {operation : EStateM ε σ α}
    (h : ∀ state, operation (change state) = carry change (operation state)) :
    Unnoticed (fun _ => True) change operation :=
  fun state _ => ⟨h state, trivial⟩

theorem pure (answer : α) : Unnoticed P change (Pure.pure answer : EStateM ε σ α) :=
  fun _ hp => ⟨rfl, hp⟩

theorem throw (error : ε) : Unnoticed P change (MonadExcept.throw error : EStateM ε σ α) :=
  fun _ hp => ⟨rfl, hp⟩

theorem bind {first : EStateM ε σ α} {next : α → EStateM ε σ β} (hf : Unnoticed P change first)
    (hn : ∀ answer, Unnoticed P change (next answer)) : Unnoticed P change (first >>= next) :=
  fun state hp => (hf state hp).bind hn

/-- Reading the state goes unnoticed if it is read for what the change does not concern. -/
theorem get_bind {next : σ → EStateM ε σ β} (hc : ∀ state, next (change state) = next state)
    (hn : ∀ state, Unnoticed P change (next state)) :
    Unnoticed P change (MonadState.get >>= next) := by
  intro state hp
  obtain ⟨hr, hk⟩ := hn state state hp
  refine ⟨?_, hk⟩
  show next (change state) (change state) = carry change (next state state)
  rw [hc]
  exact hr

/-- A modification that may be made before the change or after it. -/
theorem modify {step : σ → σ} (hc : ∀ state, step (change state) = change (step state))
    (hk : ∀ state, P state → P (step state)) :
    Unnoticed P change (modify step : EStateM ε σ Unit) := by
  intro state hp
  refine ⟨?_, hk state hp⟩
  show EStateM.Result.ok PUnit.unit (step (change state)) = .ok PUnit.unit (change (step state))
  rw [hc]

end Unnoticed

end

end Fixtures
