import Fixtures.Proofs.History.Event
import Fixtures.Proofs.Roster.Step

/-!
# Declarations, watched

The operations on a bench once more, each with an account of what happens to which instance.
-/

namespace Fixtures

open DatabaseBacked

namespace Bench

variable {σ : Type} [RecordStore σ]

/-- Watches an operation on the instance at a position. -/
def watchInstance {α : Type} (position : Nat) (watched : Watched Error (Instance × σ) Event α) :
    Watched Error (Bench σ) (Incident Nat) α :=
  { operation := onRoster (Roster.onInstance position watched.operation)
    events := fun bench =>
      match bench.roster.instance? position with
      | none => []
      | some item => (watched.events (item, bench.store)).map (.of position) }

def watchOverride (position : Nat) (overrides : AttributeMap) :
    Watched Error (Bench σ) (Incident Nat) AttributeMap :=
  watchInstance position do
    Instance.watchChange .override overrides
    return (← Watched.silently get).1.attributes

def watchBuild (factory : Factory) (overrides : AttributeMap) :
    Watched Error (Bench σ) (Incident Nat) Unit :=
  { operation := build factory overrides
    events := fun bench =>
      match Counters.upcoming factory bench.counters with
      | .error _ => []
      | .ok evaluated => [.of bench.roster.size (.built factory evaluated overrides)] }

def watchPrepare (factory : Factory) (position : Nat) (overrides : Option AttributeMap) :
    Watched Error (Bench σ) (Incident Nat) Unit := do
  if position < (← Watched.silently get).roster.size then
    match overrides with
    | none => pure ()
    | some overrides => discard <| watchOverride position overrides
  else watchBuild factory (overrides.getD ∅)

def watchSaveIf (saved : Bool) (factory : Factory) (position : Nat) :
    Watched Error (Bench σ) (Incident Nat) Unit :=
  if saved then watchInstance position (Instance.watchSave factory) else pure ()

def watchSingleton (factory : Factory) (overrides : Option AttributeMap) (saved : Bool) :
    Watched Error (Bench σ) (Incident Nat) Nat := do
  let roster := (← Watched.silently get).roster
  if roster.singleton = none ∧ 2 ≤ roster.size then
    Watched.silently (throw (.uniquenessViolation roster.factory roster.size))
  else
    let position := roster.singleton.getD 0
    watchPrepare factory position overrides
    Watched.silently (modifyRoster ({ · with singleton := some position }))
    watchSaveIf saved factory position
    return position

def watchClaims (factory : Factory) (saved : Bool) :
    Nat → List (Option AttributeMap) → Watched Error (Bench σ) (Incident Nat) Unit
  | _, [] => pure ()
  | position, overrides :: rest => do
    watchPrepare factory position overrides
    Watched.silently (modifyRoster (·.withClaimed saved (position + 1)))
    watchSaveIf saved factory position
    watchClaims factory saved (position + 1) rest

def watchCollection (factory : Factory) (overrides : List (Option AttributeMap)) (saved : Bool) :
    Watched Error (Bench σ) (Incident Nat) (List Nat) := do
  let start := (← Watched.silently get).roster.claimed saved
  Watched.silently (modifyRoster ({ · with hasCollection := true }))
  watchClaims factory saved start overrides
  return List.range' start overrides.length

def watchDeclare (factory : Factory) (name : String) (form : Form) (arguments : Arguments) :
    Watched Error (Bench σ) (Incident Nat) (List Nat) :=
  let saved := !form.isHash
  match form.isCollection, arguments with
  | false, .none => return [← watchSingleton factory none saved]
  | false, .overrides [overrides] => return [← watchSingleton factory (some overrides) saved]
  | false, .overrides maps =>
    Watched.silently (throw (.invalidDeclaration name (.notOneMap maps.length)))
  | false, .count count => Watched.silently (throw (.invalidDeclaration name (.counted count)))
  | true, .none => Watched.silently referToCollection
  | true, .count count => watchCollection factory (List.replicate count none) saved
  | true, .overrides maps => watchCollection factory (maps.map some) saved

/-! ## The same operations -/

theorem watchPrepare_operation (factory : Factory) (position : Nat)
    (overrides : Option AttributeMap) :
    (watchPrepare (σ := σ) factory position overrides).operation =
      prepare factory position overrides := by
  funext bench
  show (if position < bench.roster.size then _ else _ :
    Watched Error (Bench σ) (Incident Nat) Unit).operation bench =
      (if position < bench.roster.size then _ else _ : EStateM Error (Bench σ) Unit) bench
  by_cases h : position < bench.roster.size
  · rw [if_pos h, if_pos h]
    cases overrides <;> rfl
  · rw [if_neg h, if_neg h]
    rfl

theorem watchSaveIf_operation (saved : Bool) (factory : Factory) (position : Nat) :
    (watchSaveIf (σ := σ) saved factory position).operation = saveIf saved factory position := by
  cases saved <;> rfl

theorem watchSingleton_operation (factory : Factory) (overrides : Option AttributeMap)
    (saved : Bool) :
    (watchSingleton (σ := σ) factory overrides saved).operation =
      declareSingleton factory overrides saved := by
  funext bench
  show (if bench.roster.singleton = none ∧ 2 ≤ bench.roster.size then _ else _ :
    Watched Error (Bench σ) (Incident Nat) Nat).operation bench =
      (if bench.roster.singleton = none ∧ 2 ≤ bench.roster.size then _ else _ :
        EStateM Error (Bench σ) Nat) bench
  split
  · rfl
  · dsimp only
    rw [Watched.bind_operation, watchPrepare_operation]
    simp only [Watched.bind_operation, watchSaveIf_operation]
    rfl

theorem watchClaims_operation (factory : Factory) (saved : Bool) (position : Nat)
    (overrides : List (Option AttributeMap)) :
    (watchClaims (σ := σ) factory saved position overrides).operation =
      claimFrom factory saved position overrides := by
  induction overrides generalizing position with
  | nil => rfl
  | cons overrides rest ih =>
    unfold watchClaims claimFrom
    simp only [Watched.bind_operation, watchPrepare_operation, watchSaveIf_operation, ih]
    rfl

theorem watchCollection_operation (factory : Factory) (overrides : List (Option AttributeMap))
    (saved : Bool) :
    (watchCollection (σ := σ) factory overrides saved).operation =
      declareCollection factory overrides saved := by
  unfold watchCollection declareCollection
  simp only [Watched.bind_operation, watchClaims_operation]
  rfl

theorem watchDeclare_operation (factory : Factory) (name : String) (form : Form)
    (arguments : Arguments) :
    (watchDeclare (σ := σ) factory name form arguments).operation =
      declare factory name form arguments := by
  unfold watchDeclare declare
  dsimp only
  generalize form.isCollection = several
  cases several with
  | false =>
    cases arguments with
    | none =>
      rw [Watched.bind_operation, watchSingleton_operation]
      rfl
    | count number => rfl
    | overrides maps =>
      rcases maps with _ | ⟨map, _ | ⟨map', maps⟩⟩
      · rfl
      · dsimp only
        rw [Watched.bind_operation, watchSingleton_operation]
        rfl
      · rfl
  | true =>
    cases arguments with
    | none => rfl
    | count number => exact watchCollection_operation _ _ _
    | overrides maps => exact watchCollection_operation _ _ _

/-! ## The accounts are true -/

variable [DatabaseBacked σ] {P : Nat → Factory → Prop} {factory : Factory}

def view (bench : Bench σ) : Scene Nat :=
  { instance? := bench.roster.instance?, database := database bench.store }

theorem view_withInstance {bench : Bench σ} {position : Nat} {item : Instance}
    (hi : bench.roster.instance? position = some item) (left : Instance × σ) :
    (bench.withInstance position left).view = bench.view.put position (Instance.view left) := by
  refine Scene.ext (funext fun p => ?_) rfl
  rw [Scene.instance?_put]
  exact Roster.instance?_setInstance hi left.1 p

theorem view_push (bench : Bench σ) (counters : Counters) (item : Instance) :
    ({ bench with counters, roster := bench.roster.push item } : Bench σ).view =
      bench.view.put bench.roster.size (some item, database bench.store) := by
  refine Scene.ext (funext fun p => ?_) rfl
  rw [Scene.instance?_put]
  exact Roster.instance?_push bench.roster item p

theorem watchInstance_follows {α : Type} (position : Nat)
    {watched : Watched Error (Instance × σ) Event α}
    (h : watched.Follows (Effect (P position)) Instance.view) :
    (watchInstance position watched).Follows (Scene.Step P) view := by
  intro bench
  unfold Watched.FollowsAt watchInstance
  dsimp only
  cases hi : bench.roster.instance? position with
  | none =>
    rw [after_of_error (onInstance_of_none watched.operation hi)]
    exact Trail.nil
  | some item =>
    rw [after_onInstance watched.operation hi, view_withInstance hi]
    apply Scene.trail_put
    have hp : bench.view.part position = Instance.view (item, bench.store) :=
      congrArg (·, database bench.store) hi
    rw [hp]
    exact h (item, bench.store)

theorem watchOverride_follows (position : Nat) (overrides : AttributeMap) :
    (watchOverride (σ := σ) position overrides).Follows (Scene.Step P) view :=
  watchInstance_follows position
    ((Instance.watchChange_follows .override overrides).bind fun _ =>
      (Watched.Follows.silently fun _ => rfl).bind fun _ => Watched.Follows.pure _)

theorem watchBuild_follows (hp : ∀ position, P position factory) (overrides : AttributeMap) :
    (watchBuild (σ := σ) factory overrides).Follows (Scene.Step P) view := by
  intro bench
  unfold Watched.FollowsAt watchBuild after
  dsimp only
  rw [build_eq]
  cases ha : Counters.upcoming factory bench.counters with
  | error error => exact Trail.nil
  | ok evaluated =>
    dsimp only
    -- The place behind the last instance is the one that is taken.
    have hp' : bench.view.part bench.roster.size = (none, database bench.store) :=
      congrArg (·, database bench.store) bench.roster.instance?_size
    have hs : Scene.Step P bench.view (.of bench.roster.size _) _ :=
      .of (hp' ▸ Effect.built overrides (database bench.store) (hp _)
        (Counters.upcoming_eq_ok_iff.mp ha).2)
    rw [← view_push] at hs
    exact Trail.single hs

theorem watchPrepare_follows (hp : ∀ position, P position factory) (position : Nat)
    (overrides : Option AttributeMap) :
    (watchPrepare (σ := σ) factory position overrides).Follows (Scene.Step P) view := by
  unfold watchPrepare
  apply (Watched.Follows.silently fun _ => rfl).bind
  intro bench
  split
  · cases overrides with
    | none => exact Watched.Follows.pure _
    | some overrides =>
      exact (watchOverride_follows position overrides).bind fun _ => Watched.Follows.pure _
  · exact watchBuild_follows hp _

theorem watchSaveIf_follows (hp : ∀ position, P position factory) (saved : Bool) (position : Nat) :
    (watchSaveIf (σ := σ) saved factory position).Follows (Scene.Step P) view := by
  unfold watchSaveIf
  split
  · exact watchInstance_follows position (Instance.watchSave_follows (hp position))
  · exact Watched.Follows.pure _

/-- Marks are not seen. -/
theorem mark_follows {mark : Roster → Roster}
    (hm : ∀ roster, (mark roster).instances = roster.instances) :
    (Watched.silently (modifyRoster (σ := σ) mark)).Follows (Scene.Step P) view := by
  apply Watched.Follows.silently
  intro bench
  refine Scene.ext (funext fun p => ?_) rfl
  show (mark bench.roster).instances[p]? = bench.roster.instances[p]?
  rw [hm]

theorem watchSingleton_follows (hp : ∀ position, P position factory)
    (overrides : Option AttributeMap) (saved : Bool) :
    (watchSingleton (σ := σ) factory overrides saved).Follows (Scene.Step P) view := by
  unfold watchSingleton
  apply (Watched.Follows.silently fun _ => rfl).bind
  intro bench
  dsimp only
  split
  · exact Watched.Follows.silently fun _ => rfl
  · apply (watchPrepare_follows hp _ overrides).bind
    intro _
    apply Watched.Follows.bind
    · exact mark_follows fun _ => rfl
    intro _
    exact (watchSaveIf_follows hp saved _).bind fun _ => Watched.Follows.pure _

theorem watchClaims_follows (hp : ∀ position, P position factory) (saved : Bool) (position : Nat)
    (overrides : List (Option AttributeMap)) :
    (watchClaims (σ := σ) factory saved position overrides).Follows (Scene.Step P) view := by
  induction overrides generalizing position with
  | nil => exact Watched.Follows.pure _
  | cons overrides rest ih =>
    unfold watchClaims
    apply (watchPrepare_follows hp position overrides).bind
    intro _
    apply (mark_follows fun roster => withClaimed_instances roster saved _).bind
    intro _
    exact (watchSaveIf_follows hp saved position).bind fun _ => ih (position + 1)

theorem watchCollection_follows (hp : ∀ position, P position factory)
    (overrides : List (Option AttributeMap)) (saved : Bool) :
    (watchCollection (σ := σ) factory overrides saved).Follows (Scene.Step P) view := by
  unfold watchCollection
  apply (Watched.Follows.silently fun _ => rfl).bind
  intro bench
  apply Watched.Follows.bind
  · exact mark_follows fun _ => rfl
  intro _
  exact (watchClaims_follows hp saved _ overrides).bind fun _ => Watched.Follows.pure _

theorem watchDeclare_follows (hp : ∀ position, P position factory) (name : String) (form : Form)
    (arguments : Arguments) :
    (watchDeclare (σ := σ) factory name form arguments).Follows (Scene.Step P) view := by
  unfold watchDeclare
  dsimp only
  split
  · exact (watchSingleton_follows hp none _).bind fun _ => Watched.Follows.pure _
  · exact (watchSingleton_follows hp (some _) _).bind fun _ => Watched.Follows.pure _
  · exact Watched.Follows.silently fun _ => rfl
  · exact Watched.Follows.silently fun _ => rfl
  · exact Watched.Follows.silently fun _ => rfl
  · exact watchCollection_follows hp _ _
  · exact watchCollection_follows hp _ _

end Bench

end Fixtures
