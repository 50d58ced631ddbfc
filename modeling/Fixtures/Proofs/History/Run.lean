import Fixtures.Context
import Fixtures.Proofs.Block.Records
import Fixtures.Proofs.Block.Reverse
import Fixtures.Proofs.History.Declaration

/-!
# Runs, watched

Statements, runs of statements and merges, each with an account of what happens to which instance,
an instance being known by the name of its factory and its position (`Block.seen`, `Context.seen`).
-/

namespace Fixtures

open DatabaseBacked

/-! ## The instances of one factory among all -/

def Incident.within (name : String) : Incident Nat → Incident (String × Nat)
  | .of position event => .of (name, position) event
  | .joined row => .joined row

namespace Scene

/-- The scene with other instances of one factory. -/
def within (scene : Scene (String × Nat)) (name : String) (part : Scene Nat) :
    Scene (String × Nat) :=
  { instance? := fun place =>
      if place.1 = name then part.instance? place.2 else scene.instance? place
    database := part.database }

theorem within_put (scene : Scene (String × Nat)) (name : String) (part : Scene Nat)
    (position : Nat) (item : Option Instance × Database) :
    scene.within name (part.put position item) =
      (scene.within name part).put (name, position) item := by
  refine Scene.ext (funext fun place => ?_) rfl
  rw [instance?_put]
  unfold within
  dsimp only
  by_cases hn : place.1 = name
  · rw [if_pos hn, if_pos hn, instance?_put]
    exact if_congr (by rw [Prod.ext_iff]; exact ⟨fun h => ⟨hn, h⟩, fun h => h.2⟩) rfl rfl
  · rw [if_neg hn, if_neg hn, if_neg fun h => hn (congrArg Prod.fst h)]

theorem Step.within {P : String × Nat → Factory → Prop} {part part' : Scene Nat}
    {incident : Incident Nat} {name : String}
    (h : Step (fun position => P (name, position)) part incident part')
    (scene : Scene (String × Nat)) :
    Step P (scene.within name part) (incident.within name) (scene.within name part') := by
  cases h with
  | @of position event item h =>
    rw [within_put]
    apply Step.of
    have hp : (scene.within name part).part (name, position) = part.part position :=
      congrArg (·, part.database) (if_pos rfl)
    rwa [hp]
  | joined hd => exact Step.joined hd

/-- The scene of rosters, by the names of their factories. -/
def ofRosters (rosters : SortedMap Roster) (database : Database) : Scene (String × Nat) :=
  { instance? := fun place => (rosters.get? place.1).bind (·.instance? place.2), database }

theorem ofRosters_insert (rosters : SortedMap Roster) (name : String) (roster : Roster)
    (db db' : Database) :
    ofRosters (rosters.insert name roster) db' =
      (ofRosters rosters db).within name { instance? := roster.instance?, database := db' } := by
  refine Scene.ext (funext fun place => ?_) rfl
  unfold ofRosters within
  dsimp only
  rw [SortedMap.get?_insert]
  split <;> rfl

theorem within_self {rosters : SortedMap Roster} {name : String} {roster : Roster}
    (hr : ∀ position, roster.instance? position =
      (rosters.get? name).bind (·.instance? position)) (db : Database) :
    (ofRosters rosters db).within name { instance? := roster.instance?, database := db } =
      ofRosters rosters db := by
  refine Scene.ext (funext fun place => ?_) rfl
  unfold ofRosters within
  dsimp only
  by_cases hn : place.1 = name
  · rw [if_pos hn, hr, hn]
  · rw [if_neg hn]

theorem ofRosters_setInstance {rosters : SortedMap Roster} {name : String} {roster : Roster}
    {position : Nat} {item : Instance} (hr : rosters.get? name = some roster)
    (hi : roster.instance? position = some item) (new : Instance) (db db' : Database) :
    ofRosters (rosters.insert name (roster.setInstance position new)) db' =
      (ofRosters rosters db).put (name, position) (some new, db') := by
  have hm : ∀ p, roster.instance? p = (rosters.get? name).bind (·.instance? p) := by
    intro p
    rw [hr]
    rfl
  have hp : (roster.setInstance position new).instance? =
      Function.update roster.instance? position (some new) := by
    funext p
    rw [Roster.instance?_setInstance hi, Function.update_apply]
  have hw := within_put (ofRosters rosters db) name
    { instance? := roster.instance?, database := db } position (some new, db')
  rw [within_self hm] at hw
  rw [ofRosters_insert rosters name _ db, hp]
  exact hw

/-- What happens to an instance on a roster happens to it among all. -/
theorem trail_setInstance {P : String × Nat → Factory → Prop} {rosters : SortedMap Roster}
    {name : String} {roster : Roster} {position : Nat} {item new : Instance} {db db' : Database}
    {events : List Event} (hr : rosters.get? name = some roster)
    (hi : roster.instance? position = some item)
    (h : Trail (Effect (P (name, position))) (some item, db) events (some new, db')) :
    Trail (Step P) (ofRosters rosters db) (events.map (.of (name, position)))
      (ofRosters (rosters.insert name (roster.setInstance position new)) db') := by
  have hp : (ofRosters rosters db).part (name, position) = (some item, db) := by
    refine congrArg (·, db) ?_
    show (rosters.get? name).bind _ = _
    rw [hr]
    exact hi
  rw [ofRosters_setInstance hr hi new db db']
  apply trail_put
  rwa [hp]

end Scene

namespace Block

variable {σ : Type} [RecordStore σ]

/-! ## Statements -/

def watchDeclare (name : String) (arguments : Arguments) :
    Watched Error (Block σ) (Incident (String × Nat)) Ref :=
  { operation := declare name arguments
    events := fun block =>
      match block.workshop.resolveName name with
      | .error _ => []
      | .ok (factoryName, form) =>
        match block.workshop.catalog.factory factoryName with
        | .error _ => []
        | .ok factory =>
          ((Bench.watchDeclare factory name form arguments).events (block.bench factoryName)).map
            (·.within factoryName) }

def watchRevise (name : String) (position : Nat) (changes : AttributeMap) :
    Watched Error (Block σ) (Incident (String × Nat)) Unit :=
  { operation := revise name position changes
    events := fun block =>
      match (block.rosters.get? name).bind (·.instance? position) with
      | none => []
      | some item =>
        ((Instance.watchChange .link changes).events (item, block.store)).map
          (.of (name, position)) }

def watchInsertRecord (model : String) (attributes : AttributeMap) :
    Watched Error (Block σ) (Incident (String × Nat)) Unit :=
  { operation := insertRecord model attributes
    events := fun block =>
      match RecordStore.insert model attributes block.store with
      | .error _ _ => []
      | .ok row _ => [.joined row] }

def watchKey (link : Link) (giver holder : String × Nat) (field : String) :
    Watched Error (Block σ) (Incident (String × Nat)) Unit := do
  let id ← Watched.silently (linkedId link giver.1 giver.2)
  watchRevise holder.1 holder.2 (SortedMap.insert ∅ field (.int id))

def watchJoin (link : Link) (owner other : String × Nat) (through ownerKey otherKey : String) :
    Watched Error (Block σ) (Incident (String × Nat)) Unit := do
  let ownerId ← Watched.silently (linkedId link owner.1 owner.2)
  let otherId ← Watched.silently (linkedId link other.1 other.2)
  watchInsertRecord through
    (((∅ : AttributeMap).insert ownerKey (.int ownerId)).insert otherKey (.int otherId))

def watchPair (link : Link) (resolution : Resolution) (pair : Nat × Nat) :
    Watched Error (Block σ) (Incident (String × Nat)) Unit :=
  let owner := resolution.owner.of (ends link pair)
  let other := resolution.owner.other.of (ends link pair)
  let association := resolution.association
  match association.kind with
  | .belongsTo => watchKey link other owner association.foreignKey
  | .hasOne | .hasMany => watchKey link owner other association.foreignKey
  | .manyToMany through key key' => watchJoin link owner other through key key'

def watchPairs (link : Link) (resolution : Resolution) :
    List (Nat × Nat) → Watched Error (Block σ) (Incident (String × Nat)) Unit
  | [] => pure ()
  | pair :: rest => do
    watchPair link resolution pair
    watchPairs link resolution rest

def watchLink (link : Link) : Watched Error (Block σ) (Incident (String × Nat)) Nat := do
  let catalog := (← Watched.silently get).workshop.catalog
  let source ← Watched.silently (answer (catalog.factory link.source.factory))
  let target ← Watched.silently (answer (catalog.factory link.target.factory))
  let resolution ← Watched.silently (answer (catalog.resolveLink source target link.via))
  let pairs := resolution.written link.pairs
  watchPairs link resolution pairs
  return pairs.length

def watchNames (source target : String) :
    Watched Error (Block σ) (Incident (String × Nat)) Nat := do
  let source ← watchDeclare source .none
  let target ← watchDeclare target .none
  watchLink { source, target }

def watch : Statement → Watched Error (Block σ) (Incident (String × Nat)) Outcome
  | .declare name arguments => return .declared (← watchDeclare name arguments)
  | .link link => return .linked (← watchLink link)
  | .linkNames source target => return .linked (← watchNames source target)
  | .register factory => Watched.silently (changeCatalog (·.register factory))
  | .registerSchema schema => Watched.silently (changeCatalog (·.registerSchema schema))
  | .clearCatalog => Watched.silently (changeCatalog fun _ => ∅)

/-- What happens to the instances in a run. -/
def seen : List Attempt → Block σ → List (Incident (String × Nat))
  | [], _ => []
  | attempt :: rest, block =>
    (watch attempt.statement).events block ++
      match perform attempt.statement block with
      | .ok _ block => seen rest block
      | .error _ block => if attempt.caught then seen rest block else []

/-! ## The same operations -/

theorem watchPair_operation (link : Link) (resolution : Resolution) (pair : Nat × Nat) :
    (watchPair (σ := σ) link resolution pair).operation = linkPair link resolution pair := by
  unfold watchPair
  dsimp only
  cases hk : resolution.association.kind with
  | belongsTo => exact (linkPair_of_belongsTo hk pair).symm
  | hasOne => exact (linkPair_of_has (Or.inl hk) pair).symm
  | hasMany => exact (linkPair_of_has (Or.inr hk) pair).symm
  | manyToMany through key key' => exact (linkPair_of_manyToMany hk pair).symm

theorem watchPairs_operation (link : Link) (resolution : Resolution) (pairs : List (Nat × Nat)) :
    (watchPairs (σ := σ) link resolution pairs).operation = linkPairs link resolution pairs := by
  induction pairs with
  | nil => rfl
  | cons pair rest ih =>
    unfold watchPairs linkPairs
    simp only [Watched.bind_operation, watchPair_operation, ih]

theorem watchLink_operation (link : Link) :
    (watchLink (σ := σ) link).operation = Block.link link := by
  unfold watchLink Block.link
  simp only [Watched.bind_operation, watchPairs_operation]
  rfl

theorem watchNames_operation (source target : String) :
    (watchNames (σ := σ) source target).operation = linkNames source target := by
  unfold watchNames linkNames
  simp only [Watched.bind_operation, watchLink_operation]
  rfl

theorem watch_operation (statement : Statement) :
    (watch (σ := σ) statement).operation = perform statement := by
  unfold watch perform
  cases statement with
  | declare name arguments => rfl
  | link link => rw [Watched.bind_operation, watchLink_operation]; rfl
  | linkNames source target => rw [Watched.bind_operation, watchNames_operation]; rfl
  | register factory => rfl
  | registerSchema schema => rfl
  | clearCatalog => rfl

/-! ## Catalogs -/

/-- What the changes of the catalog by a statement keep is kept by the statement. -/
theorem perform_catalog {Q : Catalog → Prop} {statement : Statement} {block : Block σ}
    (hq : ∀ catalog, Q catalog → Q (catalogAfter statement catalog))
    (h : Q block.workshop.catalog) :
    Q (after (perform statement) block).workshop.catalog := by
  apply Moves.keeps (P := fun block : Block σ => Q block.workshop.catalog) _ h
  apply (moves_perform statement).mono
  rintro before left (hs | rfl) hb
  · rwa [hs.catalog]
  · exact hq _ hb

theorem declare_catalog (name : String) (arguments : Arguments) (block : Block σ) :
    (after (declare name arguments) block).workshop.catalog = block.workshop.catalog := by
  apply Moves.keeps (P := fun left : Block σ =>
    left.workshop.catalog = block.workshop.catalog) _ rfl
  exact (moves_declare name arguments).mono fun _ _ hs hb => hs.catalog.trans hb

/-! ## The accounts are true -/

section

variable [DatabaseBacked σ] {P : String × Nat → Factory → Prop}

def view (block : Block σ) : Scene (String × Nat) :=
  Scene.ofRosters block.rosters (database block.store)

theorem record?_eq_view (block : Block σ) (name : String) (position : Nat) :
    block.record? name position = (block.view.instance? (name, position)).bind (·.record) := by
  unfold view Scene.ofRosters record? Roster.record?
  dsimp only
  cases block.rosters.get? name <;> rfl

theorem view_setBench (block : Block σ) (name : String) (bench : Bench σ) :
    (block.setBench name bench).view = block.view.within name bench.view :=
  Scene.ofRosters_insert block.rosters name bench.roster _ _

theorem view_within_bench (block : Block σ) (name : String) :
    block.view.within name (block.bench name).view = block.view := by
  refine Scene.within_self (fun position => ?_) (database block.store)
  unfold bench
  cases block.rosters.get? name <;> rfl

theorem watchDeclare_followsAt (name : String) (arguments : Arguments) {block : Block σ}
    (hp : ∀ name factory, block.workshop.catalog.factory? name = some factory →
      ∀ position, P (name, position) factory) :
    (watchDeclare name arguments).FollowsAt (Scene.Step P) view block := by
  unfold Watched.FollowsAt watchDeclare after
  dsimp only
  rw [declare_eq]
  cases hr : block.workshop.resolveName name with
  | error error => exact Trail.nil
  | ok resolved =>
    dsimp only
    cases hf : block.workshop.catalog.factory resolved.1 with
    | error error => exact Trail.nil
    | ok factory =>
      dsimp only
      -- What happens on the bench happens to the part of the block that is on it.
      have hb := Bench.watchDeclare_follows (P := fun position => P (resolved.1, position))
        (hp _ _ (Catalog.factory_eq_ok_iff.mp hf)) name resolved.2 arguments
        (block.bench resolved.1)
      have hm := Trail.map (T := Scene.Step P) (block.view.within resolved.1)
        (Incident.within resolved.1) hb fun _ _ _ hs => hs.within block.view
      rw [view_within_bench, Bench.watchDeclare_operation, ← view_setBench] at hm
      unfold after at hm
      cases hd : Bench.declare factory name resolved.2 arguments (block.bench resolved.1) with
      | ok positions bench => rwa [hd] at hm
      | error error bench => rwa [hd] at hm

theorem watchRevise_follows (name : String) (position : Nat) (changes : AttributeMap) :
    (watchRevise (σ := σ) name position changes).Follows (Scene.Step P) view := by
  intro block
  unfold Watched.FollowsAt watchRevise
  dsimp only
  have he := revise_eq name position changes block
  cases hr : block.rosters.get? name with
  | none =>
    rw [hr] at he
    rw [after_of_error he]
    exact Trail.nil
  | some roster =>
    rw [hr] at he
    dsimp only [Option.bind_some] at he ⊢
    cases hi : roster.instance? position with
    | none =>
      rw [hi] at he
      rw [after_of_error he]
      exact Trail.nil
    | some item =>
      rw [hi] at he
      have ha : after (revise name position changes) block = block.withInstance name roster position
          (after (Instance.revise changes) (item, block.store)) := by
        unfold after
        rw [he]
        dsimp only
        cases Instance.revise changes (item, block.store) <;> rfl
      rw [ha]
      exact Scene.trail_setInstance hr hi
        (Instance.watchChange_follows .link changes (item, block.store))

theorem watchInsertRecord_follows (model : String) (attributes : AttributeMap) :
    (watchInsertRecord (σ := σ) model attributes).Follows (Scene.Step P) view := by
  intro block
  unfold Watched.FollowsAt watchInsertRecord after insertRecord
  dsimp only
  cases hi : RecordStore.insert model attributes block.store with
  | error error left =>
    show Trail _ _ [] (Scene.ofRosters block.rosters (database left))
    rw [insert_error hi]
    exact Trail.nil
  | ok row left => exact Trail.single (Scene.Step.joined (insert_ok hi))

theorem linkedId_view (link : Link) (name : String) (position : Nat) (block : Block σ) :
    (after (linkedId link name position) block).view = block.view := by
  unfold after linkedId
  cases block.recordId? name position <;> rfl

theorem watchPair_follows (link : Link) (resolution : Resolution) (pair : Nat × Nat) :
    (watchPair (σ := σ) link resolution pair).Follows (Scene.Step P) view := by
  have hkey : ∀ giver holder field,
      (watchKey (σ := σ) link giver holder field).Follows (Scene.Step P) view := by
    intro giver holder field
    apply (Watched.Follows.silently fun block => linkedId_view link _ _ block).bind
    intro id
    exact watchRevise_follows _ _ _
  unfold watchPair
  dsimp only
  split
  · exact hkey _ _ _
  · exact hkey _ _ _
  · exact hkey _ _ _
  · apply (Watched.Follows.silently fun block => linkedId_view link _ _ block).bind
    intro ownerId
    apply (Watched.Follows.silently fun block => linkedId_view link _ _ block).bind
    intro otherId
    exact watchInsertRecord_follows _ _

theorem watchPairs_follows (link : Link) (resolution : Resolution) (pairs : List (Nat × Nat)) :
    (watchPairs (σ := σ) link resolution pairs).Follows (Scene.Step P) view := by
  induction pairs with
  | nil => exact Watched.Follows.pure _
  | cons pair rest ih => exact (watchPair_follows link resolution pair).bind fun _ => ih

theorem answer_view {α : Type} (result : Except Error α) (block : Block σ) :
    (after (answer result) block).view = block.view := by
  unfold after answer
  cases result <;> rfl

theorem watchLink_follows (link : Link) :
    (watchLink (σ := σ) link).Follows (Scene.Step P) view := by
  unfold watchLink
  apply (Watched.Follows.silently fun _ => rfl).bind
  intro block
  apply (Watched.Follows.silently fun block => answer_view _ block).bind
  intro source
  apply (Watched.Follows.silently fun block => answer_view _ block).bind
  intro target
  apply (Watched.Follows.silently fun block => answer_view _ block).bind
  intro resolution
  exact (watchPairs_follows link resolution _).bind fun _ => Watched.Follows.pure _

/-! ## Runs -/

theorem watch_followsAt (statement : Statement) {block : Block σ}
    (hp : ∀ name factory, block.workshop.catalog.factory? name = some factory →
      ∀ position, P (name, position) factory) :
    (watch statement).FollowsAt (Scene.Step P) view block := by
  cases statement with
  | declare name arguments =>
    exact (watchDeclare_followsAt name arguments hp).bind fun _ left _ =>
      Watched.Follows.pure _ left
  | link link =>
    exact ((watchLink_follows link).bind fun _ => Watched.Follows.pure _) block
  | linkNames source target =>
    apply Watched.FollowsAt.bind _ fun _ left _ => Watched.Follows.pure _ left
    apply (watchDeclare_followsAt source .none hp).bind
    intro source left hd
    have hc : left.workshop.catalog = block.workshop.catalog := by
      rw [← after_of_ok hd]
      exact declare_catalog _ _ block
    apply (watchDeclare_followsAt target .none (hc ▸ hp)).bind
    intro target left _
    exact watchLink_follows _ left
  | register factory => exact Watched.Follows.silently (fun _ => rfl) block
  | registerSchema schema => exact Watched.Follows.silently (fun _ => rfl) block
  | clearCatalog => exact Watched.Follows.silently (fun _ => rfl) block

/-- A run makes the steps that are seen in it. -/
theorem seen_trail {Q : Catalog → Prop} {attempts : List Attempt} {block : Block σ}
    (hp : ∀ catalog, Q catalog → ∀ name factory, catalog.factory? name = some factory →
      ∀ position, P (name, position) factory)
    (hq : ∀ attempt ∈ attempts, ∀ catalog, Q catalog → Q (catalogAfter attempt.statement catalog))
    (h : Q block.workshop.catalog) :
    Trail (Scene.Step P) block.view (seen attempts block)
      (after (performAll attempts) block).view := by
  induction attempts generalizing block with
  | nil => exact Trail.nil
  | cons attempt rest ih =>
    have hs := watch_followsAt attempt.statement (hp _ h)
    have hc := perform_catalog (hq attempt List.mem_cons_self) h
    have hrest := @ih (after (perform attempt.statement) block)
      (fun attempt ha => hq attempt (List.mem_cons_of_mem _ ha)) hc
    unfold Watched.FollowsAt at hs
    rw [watch_operation] at hs
    unfold seen
    have he := performAll_cons attempt rest block
    cases hr : perform attempt.statement block with
    | ok outcome left =>
      rw [after_of_ok hr] at hs hrest
      rw [hr] at he
      have ha : after (performAll (attempt :: rest)) block = after (performAll rest) left := by
        unfold after
        rw [he]
      rw [ha]
      exact hs.trans hrest
    | error error left =>
      rw [after_of_error hr] at hs hrest
      rw [hr] at he
      dsimp only at he ⊢
      by_cases hcaught : attempt.caught
      · rw [if_pos hcaught] at he ⊢
        have ha : after (performAll (attempt :: rest)) block = after (performAll rest) left := by
          unfold after
          rw [he]
        rw [ha]
        exact hs.trans hrest
      · rw [if_neg hcaught] at he ⊢
        rw [after_of_error he, List.append_nil]
        exact hs

end

end Block

/-! ## Merges -/

namespace Context

variable {σ : Type} [RecordStore σ]

def watchMerge (name : String) (overrides : AttributeMap) :
    Watched Error (Context × σ) (Incident (String × Nat)) AttributeMap :=
  { operation := merge name overrides
    events := fun state =>
      match state.1.mergeTarget name with
      | .error _ => []
      | .ok (factory, roster, position) =>
        match roster.instance? position with
        | none => []
        | some item =>
          ((Instance.watchChange .override overrides).events (item, state.2)).map
            (.of (factory, position)) }

/-- Merges one map of overrides after the other, whether a merge succeeds or fails. -/
def mergeAll : List (String × AttributeMap) → Context × σ → Context × σ
  | [], state => state
  | (name, overrides) :: rest, state => mergeAll rest (after (merge name overrides) state)

/-- What happens to the instances in a list of merges. -/
def seen : List (String × AttributeMap) → Context × σ → List (Incident (String × Nat))
  | [], _ => []
  | (name, overrides) :: rest, state =>
    (watchMerge name overrides).events state ++ seen rest (after (merge name overrides) state)

theorem mergeTarget_eq_ok {context : Context} {name factory : String} {roster : Roster}
    {position : Nat} (h : context.mergeTarget name = .ok (factory, roster, position)) :
    context.rosters.get? factory = some roster := by
  unfold mergeTarget boundRoster roster? at h
  dsimp only [bind, Except.bind] at h
  cases hb : context.binding name with
  | error error =>
    rw [hb] at h
    cases h
  | ok binding =>
    rw [hb] at h
    dsimp only at h
    split at h
    · cases h
    · cases hr : context.rosters.get? binding.1 with
      | none =>
        rw [hr] at h
        cases h
      | some found =>
        rw [hr] at h
        dsimp only at h
        cases hs : found.singleton with
        | none =>
          rw [hs] at h
          cases h
        | some position =>
          rw [hs] at h
          cases h
          exact hr

/-- Without a singleton to merge into, a merge changes nothing. -/
theorem after_merge_of_error {context : Context} {name : String} {error : Error}
    (h : context.mergeTarget name = .error error) (overrides : AttributeMap) (store : σ) :
    after (merge name overrides) (context, store) = (context, store) := by
  have he : merge name overrides (context, store) = .error error (context, store) := by
    unfold merge
    dsimp only
    rw [h]
  exact after_of_error he

theorem after_merge_of_none {context : Context} {name factory : String} {roster : Roster}
    {position : Nat} (h : context.mergeTarget name = .ok (factory, roster, position))
    (hi : roster.instance? position = none) (overrides : AttributeMap) (store : σ) :
    after (merge name overrides) (context, store) = (context, store) := by
  unfold after merge Roster.override
  dsimp only
  rw [h]
  dsimp only
  rw [Roster.onInstance_of_none _ _ hi]
  dsimp only
  unfold setRoster
  rw [SortedMap.insert_eq_self (mergeTarget_eq_ok h)]

/-- A merge overrides the singleton that it is about. -/
theorem after_merge {context : Context} {name factory : String} {roster : Roster}
    {position : Nat} {item : Instance} {overrides : AttributeMap} {store : σ}
    (h : context.mergeTarget name = .ok (factory, roster, position))
    (hi : roster.instance? position = some item) :
    after (merge name overrides) (context, store) =
      (context.setRoster factory (roster.setInstance position
        (after (Instance.override overrides) (item, store)).1),
        (after (Instance.override overrides) (item, store)).2) := by
  rw [← Bench.after_override_read]
  unfold after merge Roster.override
  dsimp only
  rw [h]
  dsimp only
  rw [Roster.onInstance_of_some _ _ hi]
  generalize (do Instance.override overrides; return (← get).1.attributes :
    EStateM Error (Instance × σ) AttributeMap) (item, store) = result
  cases result <;> rfl

variable [DatabaseBacked σ] {P : String × Nat → Factory → Prop}

def view (state : Context × σ) : Scene (String × Nat) :=
  Scene.ofRosters state.1.rosters (database state.2)

theorem watchMerge_follows (name : String) (overrides : AttributeMap) :
    (watchMerge (σ := σ) name overrides).Follows (Scene.Step P) view := by
  rintro ⟨context, store⟩
  unfold Watched.FollowsAt watchMerge
  dsimp only
  cases ht : context.mergeTarget name with
  | error error =>
    rw [after_merge_of_error ht]
    exact Trail.nil
  | ok target =>
    obtain ⟨factory, roster, position⟩ := target
    have hr := mergeTarget_eq_ok ht
    dsimp only
    cases hi : roster.instance? position with
    | none =>
      rw [after_merge_of_none ht hi]
      exact Trail.nil
    | some item =>
      rw [after_merge ht hi]
      exact Scene.trail_setInstance hr hi
        (Instance.watchChange_follows .override overrides (item, store))

theorem seen_trail (merges : List (String × AttributeMap)) (state : Context × σ) :
    Trail (Scene.Step P) (view state) (seen merges state) (view (mergeAll merges state)) := by
  induction merges generalizing state with
  | nil => exact Trail.nil
  | cons merge rest ih =>
    obtain ⟨name, overrides⟩ := merge
    exact Trail.trans (watchMerge_follows name overrides state) (ih _)

end Context

end Fixtures
