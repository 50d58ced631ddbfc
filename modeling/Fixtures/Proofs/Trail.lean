import Fixtures.Proofs.Outcome

/-!
# Operations that are watched

A trail is a sequence of steps, each of which is some event.  An operation is watched
(`Watched`) if there is an account of the events it is made of, from any state on.  Operations in a
row are watched one after the other, so a program may be watched by writing it once more with
watched operations; the account is true (`Watched.Follows`) if it is the account of a trail from the
state before to the state that is left.
-/

namespace Fixtures

variable {ε σ S E α β : Type}

/-- A sequence of steps with their events, the first one first. -/
inductive Trail (R : S → E → S → Prop) (start : S) : List E → S → Prop
  | nil : Trail R start [] start
  | snoc {events : List E} {middle : S} {event : E} {left : S} (h : Trail R start events middle)
      (hs : R middle event left) : Trail R start (events ++ [event]) left

namespace Trail

variable {R : S → E → S → Prop} {start middle left : S} {events events' : List E}

theorem single {event : E} (h : R start event left) : Trail R start [event] left :=
  snoc nil h

theorem trans (h : Trail R start events middle) (h' : Trail R middle events' left) :
    Trail R start (events ++ events') left := by
  induction h' with
  | nil => rwa [List.append_nil]
  | snoc _ hs ih =>
    rw [← List.append_assoc]
    exact ih.snoc hs

/-- What every step keeps, of the state and the events so far, holds at the end. -/
theorem keeps {P : List E → S → Prop} (h : Trail R start events left) {before : List E}
    (hp : P before start)
    (hs : ∀ events state event state', P events state → R state event state' →
      P (events ++ [event]) state') : P (before ++ events) left := by
  induction h with
  | nil => rwa [List.append_nil]
  | snoc _ hstep ih =>
    rw [← List.append_assoc]
    exact hs _ _ _ _ ih hstep

/-- What every step keeps of the state alone. -/
theorem invariant {P : S → Prop} (h : Trail R start events left) (hp : P start)
    (hs : ∀ state event state', P state → R state event state' → P state') : P left := by
  induction h with
  | nil => exact hp
  | snoc _ hstep ih => exact hs _ _ _ ih hstep

/-- The steps of one system as steps of another. -/
theorem map {S' E' : Type} {T : S' → E' → S' → Prop} (place : S → S') (name : E → E')
    (h : Trail R start events left)
    (hs : ∀ state event state', R state event state' →
      T (place state) (name event) (place state')) :
    Trail T (place start) (events.map name) (place left) := by
  induction h with
  | nil => exact nil
  | snoc _ hstep ih =>
    rw [List.map_append]
    exact ih.snoc (hs _ _ _ hstep)

end Trail

/-! ## Watched operations -/

/-- An operation with an account of the events it is made of. -/
structure Watched (ε σ E α : Type) where
  operation : EStateM ε σ α
  events : σ → List E

namespace Watched

/-- After an operation that fails there are no more events. -/
instance : Monad (Watched ε σ E) where
  pure answer := { operation := pure answer, events := fun _ => [] }
  bind first next :=
    { operation := first.operation >>= fun answer => (next answer).operation
      events := fun state => first.events state ++
        match first.operation state with
        | .ok answer left => (next answer).events left
        | .error _ _ => [] }

/-- An operation in which nothing happens. -/
def silently (operation : EStateM ε σ α) : Watched ε σ E α :=
  { operation, events := fun _ => [] }

theorem bind_operation (first : Watched ε σ E α) (next : α → Watched ε σ E β) :
    (first >>= next).operation = first.operation >>= fun answer => (next answer).operation := rfl

theorem bind_events_of_ok {first : Watched ε σ E α} {state left : σ} {answer : α}
    (h : first.operation state = .ok answer left) (next : α → Watched ε σ E β) :
    (first >>= next).events state = first.events state ++ (next answer).events left := by
  show first.events state ++ _ = _
  rw [h]

theorem bind_events_of_error {first : Watched ε σ E α} {state left : σ} {error : ε}
    (h : first.operation state = .error error left) (next : α → Watched ε σ E β) :
    (first >>= next).events state = first.events state := by
  show first.events state ++ _ = _
  rw [h]
  exact List.append_nil _

/-- Seen through `view`, the operation makes from this state the steps of which it gives an
account. -/
def FollowsAt (R : S → E → S → Prop) (view : σ → S) (watched : Watched ε σ E α) (state : σ) :
    Prop :=
  Trail R (view state) (watched.events state) (view (after watched.operation state))

/-- The operation makes the steps of which it gives an account, whatever the state. -/
def Follows (R : S → E → S → Prop) (view : σ → S) (watched : Watched ε σ E α) : Prop :=
  ∀ state, watched.FollowsAt R view state

section

variable {R : S → E → S → Prop} {view : σ → S}

theorem FollowsAt.bind {first : Watched ε σ E α} {next : α → Watched ε σ E β} {state : σ}
    (hf : first.FollowsAt R view state)
    (hn : ∀ answer left, first.operation state = .ok answer left →
      (next answer).FollowsAt R view left) :
    (first >>= next).FollowsAt R view state := by
  unfold FollowsAt at hf ⊢
  rw [bind_operation]
  cases hs : first.operation state with
  | ok answer middle =>
    rw [after_of_ok hs] at hf
    rw [bind_events_of_ok hs, after_bind_of_ok hs]
    exact hf.trans (hn answer middle hs)
  | error error left =>
    rw [after_of_error hs] at hf
    rw [bind_events_of_error hs, after_bind_of_error hs]
    exact hf

namespace Follows

theorem pure (answer : α) : Follows R view (Pure.pure answer : Watched ε σ E α) :=
  fun _ => Trail.nil

theorem silently {operation : EStateM ε σ α}
    (h : ∀ state, view (after operation state) = view state) :
    Follows R view (Watched.silently operation) := by
  intro state
  show Trail R (view state) [] (view (after operation state))
  rw [h]
  exact Trail.nil

theorem bind {first : Watched ε σ E α} {next : α → Watched ε σ E β} (hf : Follows R view first)
    (hn : ∀ answer, Follows R view (next answer)) : Follows R view (first >>= next) :=
  fun state => (hf state).bind fun answer left _ => hn answer left

end Follows

end

end Watched

end Fixtures
