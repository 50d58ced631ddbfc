import Fixtures.Proofs.Roster.Step

/-!
# How declarations fail

On its bench a declaration fails in one of two ways.  It does not fit its name or the instances that
there are, and then it fails itself (`Error.isMisdeclaration`); or one of its instances cannot be
found, evaluated or stored (`Error.isOfInstance`).
-/

namespace Fixtures

/-- An instance fails: it is not there, a field of it cannot be evaluated, or the store refuses
it. -/
def Error.isOfInstance : Error → Bool
  | .noSuchAccessor _ | .expression _ _ _ _ | .store _ => true
  | .unknownFactory _ | .unknownAccessor _ | .invalidDeclaration _ _ | .uniquenessViolation _ _
  | .ambiguousAccess _ _ | .notPersisted _ | .linkResolution _ _ _ | .settings _ => false

/-- If the operation fails at all, it is with one of these errors. -/
def FailsOnly (failed : Error → Prop) {σ α : Type} (operation : EStateM Error σ α) : Prop :=
  ∀ state, Ends (operation state) (fun _ _ => True) fun error _ => failed error

namespace FailsOnly

variable {σ α β : Type} {failed : Error → Prop}

theorem pure (answer : α) : FailsOnly failed (Pure.pure answer : EStateM Error σ α) :=
  fun _ => trivial

theorem throw {error : Error} (h : failed error) :
    FailsOnly failed (throw error : EStateM Error σ α) := fun _ => h

theorem bind {first : EStateM Error σ α} {next : α → EStateM Error σ β}
    (hf : FailsOnly failed first) (hn : ∀ answer, FailsOnly failed (next answer)) :
    FailsOnly failed (first >>= next) := fun state =>
  (hf state).bind fun answer left _ => hn answer left

theorem mono {failed' : Error → Prop} {operation : EStateM Error σ α}
    (ho : FailsOnly failed operation) (h : ∀ error, failed error → failed' error) :
    FailsOnly failed' operation := fun state =>
  (ho state).mono (fun _ _ _ => trivial) fun error _ => h error

end FailsOnly

namespace Instance

variable {σ : Type} [RecordStore σ]

theorem failsOnly_revise (changes : AttributeMap) :
    FailsOnly (·.isOfInstance = true) (revise (σ := σ) changes) := by
  rintro ⟨item, store⟩
  cases hr : item.record with
  | none =>
    rw [revise_of_none changes store hr]
    trivial
  | some record =>
    rw [revise_of_some changes store hr]
    cases RecordStore.replace record (record.attributes.overlay changes) store with
    | ok found left => trivial
    | error error left => rfl

theorem failsOnly_override (overrides : AttributeMap) :
    FailsOnly (·.isOfInstance = true) (override (σ := σ) overrides) := fun (item, store) =>
  failsOnly_revise overrides ({ item with overrides := item.overrides.overlay overrides }, store)

theorem failsOnly_save (factory : Factory) :
    FailsOnly (·.isOfInstance = true) (save (σ := σ) factory) := by
  rintro ⟨item, store⟩
  cases hr : item.record with
  | some record =>
    rw [save_of_some factory store hr]
    trivial
  | none =>
    rw [save_of_none factory store hr]
    cases RecordStore.insert factory.model item.attributes store with
    | error error left => rfl
    | ok created middle =>
      dsimp only
      split
      · trivial
      · cases RecordStore.replace (factory.afterCreating created)
          (factory.afterCreating created).attributes middle with
        | error error left => rfl
        | ok found left => trivial

end Instance

namespace Bench

variable {σ : Type} {factory : Factory}

theorem failsOnly_onInstance {α : Type} (position : Nat)
    {operation : EStateM Error (Instance × σ) α} (h : FailsOnly (·.isOfInstance = true) operation) :
    FailsOnly (·.isOfInstance = true) (onRoster (Roster.onInstance position operation)) := by
  intro bench
  cases hi : bench.roster.instance? position with
  | none =>
    rw [onInstance_of_none operation hi]
    rfl
  | some item =>
    have hs := h (item, bench.store)
    rw [onInstance_of_some operation hi]
    cases ho : operation (item, bench.store) with
    | ok answer left => trivial
    | error error left => rwa [ho] at hs

theorem failsOnly_build (overrides : AttributeMap) :
    FailsOnly (·.isOfInstance = true) (build (σ := σ) factory overrides) := by
  intro bench
  rw [build_eq]
  cases ha : Counters.upcoming factory bench.counters with
  | ok attributes => trivial
  | error error =>
    obtain ⟨index, field, message, rfl⟩ := Counters.upcoming_eq_error ha
    rfl

variable [RecordStore σ] {failed : Error → Prop}

theorem failsOnly_override (position : Nat) (overrides : AttributeMap) :
    FailsOnly (·.isOfInstance = true)
      (onRoster (Roster.override (σ := σ) position overrides)) :=
  failsOnly_onInstance position ((Instance.failsOnly_override overrides).bind fun _ _ => trivial)

/-- The parts of declarations fail with their instances only. -/
theorem failsOnly_compositional (h : ∀ error : Error, error.isOfInstance = true → failed error) :
    Compositional (σ := σ) factory fun _ operation => FailsOnly failed operation where
  pure := FailsOnly.pure
  bind := FailsOnly.bind
  read _ hn := fun bench => hn bench bench
  override position overrides := (failsOnly_override position overrides).mono h
  save position := (failsOnly_onInstance position (Instance.failsOnly_save factory)).mono h
  build overrides := (failsOnly_build overrides).mono h
  mark _ := fun _ => trivial

/-- A declaration fails itself, or one of its instances does. -/
theorem failsOnly_declare (name : String) (form : Form) (arguments : Arguments) :
    FailsOnly (fun error => error.isMisdeclaration = true ∨ error.isOfInstance = true)
      (declare (σ := σ) factory name form arguments) :=
  (failsOnly_compositional fun _ => Or.inr).parallel.declare
    (fun _ he => FailsOnly.throw (Or.inl he)) name (fun _ _ => trivial) fun _ => trivial

end Bench

end Fixtures
