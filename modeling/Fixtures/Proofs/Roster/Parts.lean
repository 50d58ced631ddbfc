import Fixtures.Proofs.Outcome
import Fixtures.Roster.Bench

/-!
# Declarations from their parts

A declaration is composed of a few operations on its bench: it reads the roster, builds, overrides
or saves an instance, and marks in the roster what it has declared.  A property that these have, and
that passes to what is composed of them, is a property of every declaration.  The property may be
one of two declarations side by side, on benches with different stores, and it may ask of the parts
only what a declaration makes use of (`Bench.Parallel`): without overrides nothing is overridden,
and a hash form saves nothing.  A property of single declarations (`Bench.Compositional`) is a case
of it.
-/

namespace Fixtures

/-- The maps of overrides among the arguments of a declaration. -/
def Arguments.maps : Arguments → List AttributeMap
  | .overrides maps => maps
  | .none | .count _ => []

/-- The declaration itself fails: it does not fit its name, or the instances that there are. -/
def Error.isMisdeclaration : Error → Bool
  | .invalidDeclaration _ _ | .uniquenessViolation _ _ => true
  | .unknownFactory _ | .unknownAccessor _ | .ambiguousAccess _ _ | .noSuchAccessor _
  | .notPersisted _ | .linkResolution _ _ _ | .expression _ _ _ _ | .store _ | .settings _ => false

namespace Bench

/-- The marks that declarations leave in a roster. -/
inductive Mark : (Roster → Roster) → Prop
  | singleton (position : Nat) : Mark ({ · with singleton := some position })
  | claimed (saved : Bool) (count : Nat) : Mark (·.withClaimed saved count)
  | collection : Mark ({ · with hasCollection := true })

theorem withClaimed_factory (roster : Roster) (saved : Bool) (count : Nat) :
    (roster.withClaimed saved count).factory = roster.factory := by
  cases saved <;> rfl

theorem withClaimed_instances (roster : Roster) (saved : Bool) (count : Nat) :
    (roster.withClaimed saved count).instances = roster.instances := by
  cases saved <;> rfl

theorem Mark.factory {change : Roster → Roster} (h : Mark change) (roster : Roster) :
    (change roster).factory = roster.factory := by
  cases h with
  | singleton | collection => rfl
  | claimed saved count => exact withClaimed_factory roster saved count

theorem Mark.instances {change : Roster → Roster} (h : Mark change) (roster : Roster) :
    (change roster).instances = roster.instances := by
  cases h with
  | singleton | collection => rfl
  | claimed saved count => exact withClaimed_instances roster saved count

/-! ## Two declarations side by side -/

section

variable {σ τ : Type} [RecordStore σ] [RecordStore τ]

/-- The parts of declarations of the factory, on two sorts of benches, have the property together,
and so has what is composed of operations that have it together.  Of the overrides only those that
are `given` are asked about, and about saving only where there is `saving`.  To fail is not counted
among the parts. -/
structure Parallel (factory : Factory) (given : AttributeMap → Prop) (saving : Prop)
    (P : (α : Type) → EStateM Error (Bench σ) α → EStateM Error (Bench τ) α → Prop) : Prop where
  pure : ∀ {α : Type} (answer : α), P α (pure answer) (pure answer)
  bind : ∀ {α β : Type} {first : EStateM Error (Bench σ) α} {first' : EStateM Error (Bench τ) α}
    {next : α → EStateM Error (Bench σ) β} {next' : α → EStateM Error (Bench τ) β},
    P α first first' → (∀ answer, P β (next answer) (next' answer)) →
      P β (first >>= next) (first' >>= next')
  -- A bench is read for its roster.
  read : ∀ {β : Type} {next : Bench σ → EStateM Error (Bench σ) β}
    {next' : Bench τ → EStateM Error (Bench τ) β},
    (∀ bench bench', bench.roster = bench'.roster → next bench = next bench') →
      (∀ bench bench', bench.roster = bench'.roster → next' bench = next' bench') →
        (∀ bench bench', bench.roster = bench'.roster → P β (next bench) (next' bench')) →
          P β (MonadState.get >>= next) (MonadState.get >>= next')
  override : ∀ position overrides, given overrides →
    P AttributeMap (onRoster (Roster.override position overrides))
      (onRoster (Roster.override position overrides))
  save : saving → ∀ position,
    P Unit (onRoster (Roster.onInstance position (Instance.save factory)))
      (onRoster (Roster.onInstance position (Instance.save factory)))
  -- An instance is built without overrides, or with some that are given.
  build : ∀ overrides, overrides = ∅ ∨ given overrides →
    P Unit (build factory overrides) (build factory overrides)
  mark : ∀ {change : Roster → Roster}, Mark change →
    P Unit (modifyRoster change) (modifyRoster change)

namespace Parallel

variable {factory : Factory} {given : AttributeMap → Prop} {saving : Prop}
  {P : (α : Type) → EStateM Error (Bench σ) α → EStateM Error (Bench τ) α → Prop}

theorem prepare (h : Parallel factory given saving P) (position : Nat)
    {overrides : Option AttributeMap} (hg : ∀ map ∈ overrides, given map) :
    P Unit (prepare factory position overrides) (prepare factory position overrides) := by
  unfold Bench.prepare
  refine h.read (fun bench bench' hb => by rw [hb]) (fun bench bench' hb => by rw [hb]) ?_
  intro bench bench' hb
  rw [hb]
  split
  · cases overrides with
    | none => exact h.pure ()
    | some overrides =>
      show P Unit (discard _) (discard _)
      rw [discard_eq_bind, discard_eq_bind]
      exact h.bind (h.override position overrides (hg overrides rfl)) fun _ => h.pure ()
  · cases overrides with
    | none => exact h.build ∅ (Or.inl rfl)
    | some overrides => exact h.build overrides (Or.inr (hg overrides rfl))

theorem saveIf (h : Parallel factory given saving P) {saved : Bool} (hs : saved = true → saving)
    (position : Nat) :
    P Unit (saveIf saved factory position) (saveIf saved factory position) := by
  unfold Bench.saveIf
  split
  · rename_i ht
    exact h.save (hs ht) position
  · exact h.pure ()

/-- A position is declared: it is prepared, marked and saved. -/
theorem touch (h : Parallel factory given saving P) {α : Type} {change : Roster → Roster}
    {next : EStateM Error (Bench σ) α} {next' : EStateM Error (Bench τ) α} (position : Nat)
    {overrides : Option AttributeMap} (hg : ∀ map ∈ overrides, given map) {saved : Bool}
    (hs : saved = true → saving) (hc : Mark change) (hn : P α next next') :
    P α
      (do
        Bench.prepare factory position overrides
        modifyRoster change
        Bench.saveIf saved factory position
        next)
      (do
        Bench.prepare factory position overrides
        modifyRoster change
        Bench.saveIf saved factory position
        next') := by
  apply h.bind (h.prepare position hg)
  intro _
  apply h.bind (h.mark hc)
  intro _
  apply h.bind (h.saveIf hs position)
  intro _
  exact hn

theorem claimFrom (h : Parallel factory given saving P) {saved : Bool} (hs : saved = true → saving)
    (position : Nat) {overrides : List (Option AttributeMap)}
    (hg : ∀ map, some map ∈ overrides → given map) :
    P Unit (claimFrom factory saved position overrides)
      (claimFrom factory saved position overrides) := by
  induction overrides generalizing position with
  | nil => exact h.pure ()
  | cons overrides rest ih =>
    have hrest := ih (position + 1) fun map hm => hg map (List.mem_cons_of_mem _ hm)
    exact h.touch position (fun map hm => hg map (List.mem_cons.mpr (Or.inl hm.symm))) hs
      (Mark.claimed saved (position + 1)) hrest

theorem declareCollection (h : Parallel factory given saving P) {saved : Bool}
    (hs : saved = true → saving) {overrides : List (Option AttributeMap)}
    (hg : ∀ map, some map ∈ overrides → given map) :
    P (List Nat) (declareCollection factory overrides saved)
      (declareCollection factory overrides saved) := by
  unfold Bench.declareCollection
  refine h.read (fun bench bench' hb => by rw [hb]) (fun bench bench' hb => by rw [hb]) ?_
  intro bench bench' hb
  rw [hb]
  apply h.bind (h.mark Mark.collection)
  intro _
  exact h.bind (h.claimFrom hs _ hg) fun _ => h.pure _

theorem referToCollection (h : Parallel factory given saving P) :
    P (List Nat) referToCollection referToCollection := by
  apply h.bind (h.mark Mark.collection)
  intro _
  refine h.read (fun bench bench' hb => by rw [hb]) (fun bench bench' hb => by rw [hb]) ?_
  intro bench bench' hb
  rw [hb]
  exact h.pure _

theorem declareSingleton (h : Parallel factory given saving P)
    (ht : ∀ {α : Type} (error : Error), error.isMisdeclaration = true →
      P α (throw error) (throw error)) {saved : Bool}
    (hs : saved = true → saving) {overrides : Option AttributeMap}
    (hg : ∀ map ∈ overrides, given map) :
    P Nat (declareSingleton factory overrides saved)
      (declareSingleton factory overrides saved) := by
  unfold Bench.declareSingleton
  refine h.read (fun bench bench' hb => by rw [hb]) (fun bench bench' hb => by rw [hb]) ?_
  intro bench bench' hb
  rw [hb]
  dsimp only
  split
  · exact ht _ rfl
  · exact h.touch _ hg hs (Mark.singleton _) (h.pure _)

/-- What the parts of declarations have together, and the failures of a declaration itself too, is
had together by two declarations with the same arguments. -/
theorem declare (h : Parallel factory given saving P)
    (ht : ∀ {α : Type} (error : Error), error.isMisdeclaration = true →
      P α (throw error) (throw error)) (name : String)
    {form : Form} {arguments : Arguments} (hg : ∀ map ∈ arguments.maps, given map)
    (hs : form.isHash = false → saving) :
    P (List Nat) (declare factory name form arguments) (declare factory name form arguments) := by
  have hs' : (!form.isHash) = true → saving := fun he => hs (by rwa [Bool.not_eq_true'] at he)
  -- The cases are those of `declare`: two singletons, two faults, and three collections.
  unfold Bench.declare
  dsimp only
  split
  · exact h.bind (h.declareSingleton ht hs' nofun) fun _ => h.pure _
  · rename_i map _
    have hmap : ∀ map' ∈ some map, given map' := by
      rintro _ ⟨⟩
      exact hg map List.mem_cons_self
    exact h.bind (h.declareSingleton ht hs' hmap) fun _ => h.pure _
  · exact ht _ rfl
  · exact ht _ rfl
  · exact h.referToCollection
  · exact h.declareCollection hs' fun map hm => nomatch List.eq_of_mem_replicate hm
  · rename_i maps
    apply h.declareCollection hs'
    intro map hm
    obtain ⟨map', hm', he⟩ := List.mem_map.mp hm
    cases he
    exact hg map hm'

end Parallel

end

/-! ## One declaration -/

variable {σ : Type} [RecordStore σ]

/-- The parts of declarations of the factory have the property, and so has what is composed of
operations with the property.  To fail is not counted among the parts. -/
structure Compositional (factory : Factory)
    (P : (α : Type) → EStateM Error (Bench σ) α → Prop) : Prop where
  pure : ∀ {α : Type} (answer : α), P α (pure answer)
  bind : ∀ {α β : Type} {first : EStateM Error (Bench σ) α}
    {next : α → EStateM Error (Bench σ) β},
    P α first → (∀ answer, P β (next answer)) → P β (first >>= next)
  -- A bench is read for its roster.
  read : ∀ {β : Type} {next : Bench σ → EStateM Error (Bench σ) β},
    (∀ bench bench', bench.roster = bench'.roster → next bench = next bench') →
      (∀ bench, P β (next bench)) → P β (MonadState.get >>= next)
  override : ∀ position overrides,
    P AttributeMap (onRoster (Roster.override position overrides))
  save : ∀ position, P Unit (onRoster (Roster.onInstance position (Instance.save factory)))
  build : ∀ overrides, P Unit (build factory overrides)
  mark : ∀ {change : Roster → Roster}, Mark change → P Unit (modifyRoster change)

namespace Compositional

variable {factory : Factory} {P : (α : Type) → EStateM Error (Bench σ) α → Prop}

/-- One declaration is beside itself, with any overrides, and saves. -/
theorem parallel (h : Compositional factory P) :
    Parallel (τ := σ) factory (fun _ => True) True fun α operation _ => P α operation where
  pure := h.pure
  bind := h.bind
  read hn _ hp := h.read hn fun bench => hp bench bench rfl
  override position overrides _ := h.override position overrides
  save _ := h.save
  build overrides _ := h.build overrides
  mark := h.mark

theorem saveIf (h : Compositional factory P) (saved : Bool) (position : Nat) :
    P Unit (saveIf saved factory position) :=
  h.parallel.saveIf (fun _ => trivial) position

theorem touch (h : Compositional factory P) {α : Type} {change : Roster → Roster}
    {next : EStateM Error (Bench σ) α} (position : Nat) (overrides : Option AttributeMap)
    (saved : Bool) (hc : Mark change) (hn : P α next) :
    P α (do
      Bench.prepare factory position overrides
      modifyRoster change
      Bench.saveIf saved factory position
      next) :=
  @Parallel.touch _ _ _ _ _ _ _ _ h.parallel _ _ next next position _ (fun _ _ => trivial) saved
    (fun _ => trivial) hc hn

theorem claimFrom (h : Compositional factory P) (saved : Bool) (position : Nat)
    (overrides : List (Option AttributeMap)) :
    P Unit (claimFrom factory saved position overrides) :=
  h.parallel.claimFrom (fun _ => trivial) position fun _ _ => trivial

theorem declareCollection (h : Compositional factory P) (overrides : List (Option AttributeMap))
    (saved : Bool) : P (List Nat) (declareCollection factory overrides saved) :=
  h.parallel.declareCollection (fun _ => trivial) fun _ _ => trivial

/-- What the parts of declarations have, and failures, is had by every declaration. -/
theorem declare (h : Compositional factory P)
    (ht : ∀ {α : Type} (error : Error), P α (throw error)) (name : String) (form : Form)
    (arguments : Arguments) : P (List Nat) (declare factory name form arguments) :=
  h.parallel.declare (fun error _ => ht error) name (fun _ _ => trivial) fun _ => trivial

end Compositional

end Bench

end Fixtures
