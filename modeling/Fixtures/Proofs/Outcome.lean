import Mathlib.Logic.Relation

/-!
# Outcomes of operations

An operation answers or fails, and leaves a state in either case.  `after` is that state, and the
lemmas here say what a sequence of two operations answers and leaves, in terms of the two.
-/

namespace Fixtures

open Relation

variable {ε σ α β : Type}

/-- The state that an operation leaves, whether it answers or fails. -/
def after (operation : EStateM ε σ α) (state : σ) : σ :=
  match operation state with
  | .ok _ left => left
  | .error _ left => left

theorem after_of_ok {operation : EStateM ε σ α} {state left : σ} {answer : α}
    (h : operation state = .ok answer left) : after operation state = left := by
  unfold after
  rw [h]

theorem after_of_error {operation : EStateM ε σ α} {state left : σ} {error : ε}
    (h : operation state = .error error left) : after operation state = left := by
  unfold after
  rw [h]

/-! ## Sequences -/

variable {first : EStateM ε σ α} {next : α → EStateM ε σ β} {state left : σ}

theorem bind_of_ok {answer : α} {middle : σ} (h : first state = .ok answer middle) :
    (first >>= next) state = next answer middle := by
  show EStateM.bind first next state = _
  unfold EStateM.bind
  rw [h]

theorem bind_of_error {error : ε} (h : first state = .error error left) :
    (first >>= next) state = .error error left := by
  show EStateM.bind first next state = _
  unfold EStateM.bind
  rw [h]

/-- A sequence answers if its first operation does and what follows does. -/
theorem bind_eq_ok_iff {answer : β} :
    (first >>= next) state = .ok answer left ↔
      ∃ value middle, first state = .ok value middle ∧ next value middle = .ok answer left := by
  cases h : first state with
  | ok value middle =>
    rw [bind_of_ok h]
    constructor
    · intro hn
      exact ⟨value, middle, rfl, hn⟩
    · rintro ⟨value', middle', he, hn⟩
      cases he
      exact hn
  | error error middle =>
    rw [bind_of_error h]
    simp

/-- A sequence fails with its first operation or with what follows it. -/
theorem bind_eq_error_iff {error : ε} :
    (first >>= next) state = .error error left ↔
      first state = .error error left ∨
        ∃ value middle, first state = .ok value middle ∧ next value middle = .error error left := by
  cases h : first state with
  | ok value middle =>
    rw [bind_of_ok h]
    constructor
    · intro hn
      exact Or.inr ⟨value, middle, rfl, hn⟩
    · rintro (he | ⟨value', middle', he, hn⟩)
      · cases he
      · cases he
        exact hn
  | error error' middle =>
    rw [bind_of_error h]
    simp

/-- What follows depends on the first operation only through how it ends. -/
theorem bind_congr_left {first' : EStateM ε σ α} {state' : σ} (h : first state = first' state') :
    (first >>= next) state = (first' >>= next) state' := by
  cases hf : first' state' with
  | ok answer left => rw [bind_of_ok hf, bind_of_ok (h.trans hf)]
  | error error left => rw [bind_of_error hf, bind_of_error (h.trans hf)]

theorem after_bind_of_ok {answer : α} {middle : σ} (h : first state = .ok answer middle) :
    after (first >>= next) state = after (next answer) middle := by
  unfold after
  rw [bind_of_ok h]

theorem after_bind_of_error {error : ε} (h : first state = .error error left) :
    after (first >>= next) state = left :=
  after_of_error (bind_of_error h)

/-- To answer something else changes nothing of what is left. -/
theorem after_bind_pure (f : α → β) :
    after (first >>= fun answer => pure (f answer)) state = after first state := by
  cases h : first state with
  | ok answer middle =>
    rw [after_bind_of_ok h, after_of_ok h]
    rfl
  | error error middle => rw [after_bind_of_error h, after_of_error h]

/-- To discard an answer is to answer nothing instead. -/
theorem discard_eq_bind (operation : EStateM ε σ α) :
    Functor.discard operation = operation >>= fun _ => pure () := by
  funext state
  show EStateM.map _ operation state = EStateM.bind operation _ state
  unfold EStateM.map EStateM.bind
  cases operation state <;> rfl

/-! ## Answers and failures -/

/-- A result is an answer that satisfies `answered`, or a failure that satisfies `failed`, each
together with the state that is left. -/
def Ends (result : EStateM.Result ε σ α) (answered : α → σ → Prop) (failed : ε → σ → Prop) : Prop :=
  match result with
  | .ok answer left => answered answer left
  | .error error left => failed error left

instance {result : EStateM.Result ε σ α} {answered : α → σ → Prop} {failed : ε → σ → Prop}
    [∀ answer left, Decidable (answered answer left)]
    [∀ error left, Decidable (failed error left)] :
    Decidable (Ends result answered failed) :=
  match result with
  | .ok answer left => inferInstanceAs (Decidable (answered answer left))
  | .error error left => inferInstanceAs (Decidable (failed error left))

namespace Ends

variable {answered : β → σ → Prop} {failed : ε → σ → Prop}

theorem mono {answered' : β → σ → Prop} {failed' : ε → σ → Prop}
    {result : EStateM.Result ε σ β} (h : Ends result answered failed)
    (ha : ∀ answer left, answered answer left → answered' answer left)
    (hf : ∀ error left, failed error left → failed' error left) :
    Ends result answered' failed' := by
  cases result with
  | ok answer left => exact ha answer left h
  | error error left => exact hf error left h

theorem and {answered' : β → σ → Prop} {failed' : ε → σ → Prop} {result : EStateM.Result ε σ β}
    (h : Ends result answered failed) (h' : Ends result answered' failed') :
    Ends result (fun answer left => answered answer left ∧ answered' answer left)
      fun error left => failed error left ∧ failed' error left := by
  cases result with
  | ok answer left => exact ⟨h, h'⟩
  | error error left => exact ⟨h, h'⟩

theorem bind {middle : α → σ → Prop} (h : Ends (first state) middle failed)
    (hn : ∀ answer left, middle answer left → Ends (next answer left) answered failed) :
    Ends ((first >>= next) state) answered failed := by
  cases hs : first state with
  | ok answer left =>
    rw [hs] at h
    rw [bind_of_ok hs]
    exact hn answer left h
  | error error left =>
    rw [hs] at h
    rw [bind_of_error hs]
    exact h

theorem discard {answered : Unit → σ → Prop}
    (h : Ends (first state) (fun _ left => answered () left) failed) :
    Ends (Functor.discard first state) answered failed := by
  rw [discard_eq_bind]
  exact h.bind fun _ _ ha => ha

theorem after {P : σ → Prop} (h : Ends (first state) (fun _ => P) (fun _ => P)) :
    P (after first state) := by
  unfold Fixtures.after
  cases hs : first state with
  | ok answer left => rwa [hs] at h
  | error error left => rwa [hs] at h

theorem of_after {P : σ → Prop} (h : P (Fixtures.after first state)) :
    Ends (first state) (fun _ => P) (fun _ => P) := by
  unfold Fixtures.after at h
  cases hs : first state with
  | ok answer left => rwa [hs] at h
  | error error left => rwa [hs] at h

end Ends

/-- Mapping the answer of a failure leaves the error. -/
theorem eq_error_of_map {f : α → β} {result : Except ε α} {error : ε}
    (h : result.map f = .error error) : result = .error error := by
  cases result with
  | ok answer => cases h
  | error error =>
    cases h
    rfl

theorem eq_ok_of_toOption {result : Except ε α} {answer : α} (h : result.toOption = some answer) :
    result = .ok answer := by
  cases result with
  | ok value => exact congrArg Except.ok (Option.some.inj h)
  | error error => cases h

/-- The error of a failed result. -/
def failure? : Except ε α → Option ε
  | .ok _ => none
  | .error error => some error

theorem eq_error_of_failure? {result : Except ε α} {error : ε}
    (h : failure? result = some error) : result = .error error := by
  cases result with
  | ok answer => cases h
  | error error' => exact congrArg Except.error (Option.some.inj h)

/-! ## Two operations side by side -/

/-- The results are the same answer or the same error, in states that are related. -/
inductive Paired {τ : Type} (R : σ → τ → Prop) :
    EStateM.Result ε σ α → EStateM.Result ε τ α → Prop
  | ok (answer : α) {left : σ} {left' : τ} (h : R left left') :
      Paired R (.ok answer left) (.ok answer left')
  | error (error : ε) {left : σ} {left' : τ} (h : R left left') :
      Paired R (.error error left) (.error error left')

theorem Paired.bind {τ : Type} {R : σ → τ → Prop} {first' : EStateM ε τ α}
    {next' : α → EStateM ε τ β} {state' : τ} (h : Paired R (first state) (first' state'))
    (hn : ∀ answer left left', R left left' → Paired R (next answer left) (next' answer left')) :
    Paired R ((first >>= next) state) ((first' >>= next') state') := by
  generalize hf : first state = result at h
  generalize hf' : first' state' = result' at h
  cases h with
  | ok answer h =>
    rw [bind_of_ok hf, bind_of_ok hf']
    exact hn answer _ _ h
  | error error h =>
    rw [bind_of_error hf, bind_of_error hf']
    exact Paired.error error h

/-! ## Runs as sequences of small steps -/

/-- Whatever it answers, the operation moves the state by steps of `R`. -/
def Moves (R : σ → σ → Prop) (operation : EStateM ε σ α) : Prop :=
  ∀ state, ReflTransGen R state (after operation state)

namespace Moves

variable {R : σ → σ → Prop}

theorem mono {S : σ → σ → Prop} (hf : Moves R first)
    (h : ∀ state left, R state left → S state left) : Moves S first := fun state =>
  ReflTransGen.mono h state _ (hf state)

theorem of_after (h : ∀ state, R state (after first state)) : Moves R first := fun state =>
  ReflTransGen.single (h state)

/-- What no step destroys is there after the operation. -/
theorem keeps {P : σ → Prop} (hf : Moves (fun state left => P state → P left) first)
    (h : P state) : P (after first state) := by
  have hm := hf state
  -- By induction on the steps, for whatever state they lead to.
  generalize after first state = left at hm
  induction hm with
  | refl => exact h
  | tail _ hs ih => exact hs ih

theorem pure (answer : α) : Moves R (Pure.pure answer : EStateM ε σ α) := fun _ =>
  ReflTransGen.refl

theorem throw (error : ε) : Moves R (MonadExcept.throw error : EStateM ε σ α) := fun _ =>
  ReflTransGen.refl

theorem bind (hf : Moves R first) (hn : ∀ answer, Moves R (next answer)) :
    Moves R (first >>= next) := by
  intro state
  have h := hf state
  cases hs : first state with
  | ok answer middle =>
    rw [after_of_ok hs] at h
    rw [after_bind_of_ok hs]
    exact h.trans (hn answer middle)
  | error error left =>
    rw [after_of_error hs] at h
    rwa [after_bind_of_error hs]

/-- Reading the state takes no step. -/
theorem get_bind {next : σ → EStateM ε σ β} (hn : ∀ state, Moves R (next state)) :
    Moves R (MonadState.get >>= next) := fun state => hn state state

theorem modify {change : σ → σ} (hc : ∀ state, R state (change state)) :
    Moves R (modify change : EStateM ε σ Unit) := fun state =>
  ReflTransGen.single (hc state)

end Moves

/-! ## Lists of results -/

section

variable {f : α → Except ε β} {list : List α}

/-- A list answers where all of its elements do. -/
theorem mapM_eq_ok_iff {answers : List β} :
    list.mapM f = .ok answers ↔ list.map f = answers.map Except.ok := by
  induction list generalizing answers with
  | nil =>
    rw [List.mapM_nil, List.map_nil, eq_comm (b := answers.map _), List.map_eq_nil_iff]
    exact ⟨fun h => (Except.ok.inj h).symm, fun h => congrArg Except.ok h.symm⟩
  | cons x rest ih =>
    rw [List.mapM_cons, List.map_cons, eq_comm (b := answers.map _), List.map_eq_cons_iff]
    cases hx : f x with
    | error error =>
      constructor
      · nofun
      · rintro ⟨_, _, -, ⟨⟩, -⟩
    | ok answer =>
      cases hr : rest.mapM f with
      | error error =>
        constructor
        · nofun
        · rintro ⟨_, more, -, -, hmore⟩
          cases hr.symm.trans (ih.mpr hmore.symm)
      | ok more =>
        constructor
        · rintro ⟨⟩
          exact ⟨answer, more, rfl, rfl, (ih.mp hr).symm⟩
        · rintro ⟨_, more', rfl, ⟨⟩, hmore⟩
          cases hr.symm.trans (ih.mpr hmore.symm)
          rfl

/-- To evaluate a list fails as its first failing element does. -/
theorem mapM_eq_error_iff {error : ε} :
    list.mapM f = .error error ↔
      ∃ before x rest, list = before ++ x :: rest ∧
        (∀ earlier ∈ before, ∃ answer, f earlier = .ok answer) ∧ f x = .error error := by
  induction list with
  | nil =>
    constructor
    · nofun
    · rintro ⟨before, x, rest, h, -⟩
      cases before <;> cases h
  | cons x rest ih =>
    rw [List.mapM_cons]
    cases hx : f x with
    | error error' =>
      constructor
      · rintro ⟨⟩
        exact ⟨[], x, rest, rfl, nofun, hx⟩
      · rintro ⟨before, y, more, hlist, hbefore, hy⟩
        cases before with
        | nil =>
          cases hlist
          exact congrArg Except.error (Except.error.inj (hx.symm.trans hy))
        | cons first before =>
          cases hlist
          obtain ⟨answer, ha⟩ := hbefore x List.mem_cons_self
          cases hx.symm.trans ha
    | ok answer =>
      -- It fails as the rest does.
      have hrest : (Except.ok answer >>= fun answer => rest.mapM f >>= fun answers =>
          pure (answer :: answers)) = Except.error error ↔ rest.mapM f = .error error := by
        cases rest.mapM f with
        | ok answers => exact ⟨nofun, nofun⟩
        | error error' => exact Iff.rfl
      rw [hrest, ih]
      constructor
      · rintro ⟨before, y, more, rfl, hbefore, hy⟩
        exact ⟨x :: before, y, more, rfl, List.forall_mem_cons.mpr ⟨⟨answer, hx⟩, hbefore⟩, hy⟩
      · rintro ⟨before, y, more, hlist, hbefore, hy⟩
        cases before with
        | nil =>
          cases hlist
          cases hx.symm.trans hy
        | cons first before =>
          cases hlist
          exact ⟨before, y, more, rfl, fun z hz => hbefore z (List.mem_cons_of_mem _ hz), hy⟩

theorem mapM_isOk_iff :
    (∃ answers, list.mapM f = .ok answers) ↔ ∀ x ∈ list, ∃ answer, f x = .ok answer := by
  constructor
  · rintro ⟨answers, h⟩ x hx
    have hmem := List.mem_map_of_mem (f := f) hx
    rw [mapM_eq_ok_iff.mp h] at hmem
    obtain ⟨answer, -, ha⟩ := List.mem_map.mp hmem
    exact ⟨answer, ha.symm⟩
  · intro h
    cases hm : list.mapM f with
    | ok answers => exact ⟨answers, rfl⟩
    | error error =>
      obtain ⟨before, x, rest, rfl, -, hx⟩ := mapM_eq_error_iff.mp hm
      obtain ⟨answer, ha⟩ := h x (by simp)
      cases hx.symm.trans ha

end

end Fixtures
