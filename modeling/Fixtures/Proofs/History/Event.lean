import Fixtures.Proofs.Roster.Instance
import Fixtures.Proofs.Store.Numbering
import Fixtures.Proofs.Trail
import Mathlib.Logic.Function.Basic

/-!
# What happens to instances

The life of an instance consists of events (`Event`): it is built, changed and saved.  What an event
does to the instance and to the database is `Effect`, and `Scene.Step` is the same among many
instances.  A change or a saving that the store does not carry through is an event as well.
-/

namespace Fixtures

open DatabaseBacked

/-- Where a change of an instance comes from. -/
inductive Cause where
  -- Overrides, from a declaration or a merge.
  | override
  -- The key of another instance, from a link.
  | link
  deriving DecidableEq

/-- What can happen to an instance. -/
inductive Event where
  | built (factory : Factory) (evaluated overrides : AttributeMap)
  -- The record takes the changes too, if there is one, unless the store does not accept that.
  | changed (cause : Cause) (changes : AttributeMap) (accepted : Bool)
  -- A row was inserted, and what the factory makes of it is the record now.
  | saved (factory : Factory) (created : Record)
  -- A row was inserted, but the store does not accept what the factory makes of it.
  | lost (factory : Factory) (created : Record)

/-- What can happen among instances at places. -/
inductive Incident (ι : Type) where
  | of (place : ι) (event : Event)
  -- A row was inserted that joins the records of two instances.
  | joined (row : Record)

namespace Instance

/-- The instance after a change of its attributes. Overrides are remembered, keys are not. -/
def changedBy (item : Instance) (cause : Cause) (changes : AttributeMap) : Instance :=
  match cause with
  | .override => { item.revised changes with overrides := item.overrides.overlay changes }
  | .link => item.revised changes

theorem changedBy_attributes (item : Instance) (cause : Cause) (changes : AttributeMap) :
    (item.changedBy cause changes).attributes = item.attributes.overlay changes := by
  cases cause <;> rfl

theorem changedBy_record (item : Instance) (cause : Cause) (changes : AttributeMap) :
    (item.changedBy cause changes).record = item.record := by
  cases cause <;> rfl

theorem changedBy_index (item : Instance) (cause : Cause) (changes : AttributeMap) :
    (item.changedBy cause changes).index = item.index := by
  cases cause <;> rfl

end Instance

/-- What an event does to the instance at a place and to the database, where all factories satisfy
`P`. -/
inductive Effect (P : Factory → Prop) : Option Instance × Database → Event →
    Option Instance × Database → Prop
  | built {factory : Factory} {index : Nat} {evaluated : AttributeMap} (overrides : AttributeMap)
      (db : Database) (hp : P factory) (ha : factory.attributesAt index = .ok evaluated) :
      Effect P (none, db) (.built factory evaluated overrides)
        (some { index, attributes := factory.finish evaluated overrides, overrides }, db)
  -- Without a record there is nothing that the store could refuse.
  | changed {item : Instance} (cause : Cause) (changes : AttributeMap) (db : Database)
      (hr : item.record = none) :
      Effect P (some item, db) (.changed cause changes true)
        (some (item.changedBy cause changes), db)
  | accepted {item : Instance} {record found : Record} {db db' : Database} (cause : Cause)
      {changes : AttributeMap} (hr : item.record = some record)
      (hd : Database.replace record (record.attributes.overlay changes) db = .ok found db') :
      Effect P (some item, db) (.changed cause changes true)
        (some { item.changedBy cause changes with record := some found }, db')
  | refused {item : Instance} {record : Record} (cause : Cause) (changes : AttributeMap)
      (db : Database) (hr : item.record = some record) :
      Effect P (some item, db) (.changed cause changes false)
        (some (item.changedBy cause changes), db)
  -- The factory leaves the values of the row as they are.
  | saved {factory : Factory} {item : Instance} {created : Record} {db db' : Database}
      (hp : P factory) (hr : item.record = none)
      (hd : Database.insert factory.model item.attributes db = .ok created db')
      (hv : (factory.afterCreating created).attributes.sameValues created.attributes) :
      Effect P (some item, db) (.saved factory created)
        (some { item with record := some (factory.afterCreating created) }, db')
  -- The row is replaced by what the factory makes of it.
  | rewritten {factory : Factory} {item : Instance} {created found : Record}
      {db db' db'' : Database} (hp : P factory) (hr : item.record = none)
      (hd : Database.insert factory.model item.attributes db = .ok created db')
      (hd' : Database.replace (factory.afterCreating created)
        (factory.afterCreating created).attributes db' = .ok found db'') :
      Effect P (some item, db) (.saved factory created)
        (some { item with record := some found }, db'')
  | lost {factory : Factory} {item : Instance} {created : Record} {db db' : Database}
      (hp : P factory) (hr : item.record = none)
      (hd : Database.insert factory.model item.attributes db = .ok created db')
      (hv : ¬(factory.afterCreating created).attributes.sameValues created.attributes) :
      Effect P (some item, db) (.lost factory created) (some item, db')

theorem Effect.numbered {P : Factory → Prop} {old new : Option Instance × Database}
    {event : Event} (h : Effect P old event new) (hn : old.2.Numbered) : new.2.Numbered := by
  cases h with
  | built | changed | refused => exact hn
  | accepted _ _ hd => exact hn.replace hd
  | saved _ _ hd _ => exact hn.insert hd
  | rewritten _ _ hd hd' => exact (hn.insert hd).replace hd'
  | lost _ _ hd _ => exact hn.insert hd

/-! ## Many instances -/

/-- The instances at places, with the database that their records are in. -/
@[ext] structure Scene (ι : Type) where
  instance? : ι → Option Instance
  database : Database

namespace Scene

variable {ι : Type}

/-- What there is at a place. -/
def part (scene : Scene ι) (place : ι) : Option Instance × Database :=
  (scene.instance? place, scene.database)

variable [DecidableEq ι]

/-- The scene with something else at one place. -/
def put (scene : Scene ι) (place : ι) (part : Option Instance × Database) : Scene ι :=
  { instance? := Function.update scene.instance? place part.1, database := part.2 }

@[simp] theorem put_part (scene : Scene ι) (place : ι) :
    scene.put place (scene.part place) = scene :=
  Scene.ext (Function.update_eq_self place scene.instance?) rfl

@[simp] theorem part_put (scene : Scene ι) (place : ι) (part : Option Instance × Database) :
    (scene.put place part).part place = part :=
  Prod.ext (by
    show Function.update scene.instance? place part.1 place = part.1
    rw [Function.update_self]) rfl

@[simp] theorem put_put (scene : Scene ι) (place : ι) (part part' : Option Instance × Database) :
    (scene.put place part).put place part' = scene.put place part' :=
  Scene.ext (by
    show Function.update (Function.update scene.instance? place part.1) place part'.1 = _
    rw [Function.update_idem]
    rfl) rfl

theorem instance?_put (scene : Scene ι) (place : ι) (part : Option Instance × Database) (p : ι) :
    (scene.put place part).instance? p = if p = place then part.1 else scene.instance? p :=
  Function.update_apply ..

/-- What an incident does to a scene, where all factories of a place satisfy `P`. -/
inductive Step (P : ι → Factory → Prop) (scene : Scene ι) : Incident ι → Scene ι → Prop
  | of {place : ι} {event : Event} {part : Option Instance × Database}
      (h : Effect (P place) (scene.part place) event part) :
      Step P scene (.of place event) (scene.put place part)
  | joined {model : String} {attributes : AttributeMap} {row : Record} {db : Database}
      (hd : Database.insert model attributes scene.database = .ok row db) :
      Step P scene (.joined row) { scene with database := db }

theorem Step.numbered {P : ι → Factory → Prop} {scene scene' : Scene ι} {incident : Incident ι}
    (h : Step P scene incident scene') (hn : scene.database.Numbered) :
    scene'.database.Numbered := by
  cases h with
  | of h => exact h.numbered hn
  | joined hd => exact hn.insert hd

/-- What happens to one instance happens to it among the others. -/
theorem trail_put {P : ι → Factory → Prop} {scene : Scene ι} {place : ι} {events : List Event}
    {part : Option Instance × Database}
    (h : Trail (Effect (P place)) (scene.part place) events part) :
    Trail (Step P) scene (events.map (.of place)) (scene.put place part) := by
  have hm := h.map (T := Step P) (scene.put place) (.of place) fun part event part' he => by
    have hs : Step P (scene.put place part) (.of place event) _ := .of (by rwa [part_put])
    rwa [put_put] at hs
  rwa [put_part] at hm

end Scene

/-! ## Watching operations on an instance -/

section

variable {ε σ α : Type} {operation : EStateM ε σ α} {state left : σ}

def succeeds (operation : EStateM ε σ α) (state : σ) : Bool :=
  match operation state with
  | .ok _ _ => true
  | .error _ _ => false

theorem succeeds_of_ok {answer : α} (h : operation state = .ok answer left) :
    succeeds operation state = true := by
  unfold succeeds
  rw [h]

theorem succeeds_of_error {error : ε} (h : operation state = .error error left) :
    succeeds operation state = false := by
  unfold succeeds
  rw [h]

end

namespace Instance

variable {σ : Type} [RecordStore σ]

def changeFor (cause : Cause) (changes : AttributeMap) : EStateM Error (Instance × σ) Unit :=
  match cause with
  | .override => override changes
  | .link => revise changes

def watchChange (cause : Cause) (changes : AttributeMap) :
    Watched Error (Instance × σ) Event Unit :=
  { operation := changeFor cause changes
    events := fun state => [.changed cause changes (succeeds (changeFor cause changes) state)] }

def watchSave (factory : Factory) : Watched Error (Instance × σ) Event Unit :=
  { operation := save factory
    events := fun state =>
      match state.1.record with
      | some _ => []
      | none =>
        match RecordStore.insert factory.model state.1.attributes state.2 with
        | .error _ _ => []
        | .ok created _ =>
          if succeeds (save factory) state then [.saved factory created]
          else [.lost factory created] }

theorem changeFor_of_none {item : Instance} (cause : Cause) (changes : AttributeMap) (store : σ)
    (h : item.record = none) :
    changeFor cause changes (item, store) = .ok () (item.changedBy cause changes, store) := by
  cases cause with
  | override =>
    have hr : ({ item with overrides := item.overrides.overlay changes } : Instance).record =
        none := h
    exact revise_of_none changes store hr
  | link => exact revise_of_none changes store h

theorem changeFor_of_some {item : Instance} {record : Record} (cause : Cause)
    (changes : AttributeMap) (store : σ) (h : item.record = some record) :
    changeFor cause changes (item, store) =
      match RecordStore.replace record (record.attributes.overlay changes) store with
      | .ok found left =>
        .ok () ({ item.changedBy cause changes with record := some found }, left)
      | .error error left => .error (.store error) (item.changedBy cause changes, left) := by
  cases cause with
  | override =>
    have hr : ({ item with overrides := item.overrides.overlay changes } : Instance).record =
        some record := h
    exact revise_of_some changes store hr
  | link => exact revise_of_some changes store h

variable [DatabaseBacked σ] {P : Factory → Prop}

def view (state : Instance × σ) : Option Instance × Database := (some state.1, database state.2)

theorem watchChange_follows (cause : Cause) (changes : AttributeMap) :
    (watchChange (σ := σ) cause changes).Follows (Effect P) view := by
  rintro ⟨item, store⟩
  show Trail _ (some item, database store)
    [Event.changed cause changes (succeeds (changeFor cause changes) (item, store))]
    (view (after (changeFor cause changes) (item, store)))
  apply Trail.single
  cases hr : item.record with
  | none =>
    have he := changeFor_of_none cause changes store hr
    rw [succeeds_of_ok he, after_of_ok he]
    exact Effect.changed cause changes _ hr
  | some record =>
    have he := changeFor_of_some cause changes store hr
    cases hs : RecordStore.replace record (record.attributes.overlay changes) store with
    | ok found left =>
      rw [hs] at he
      rw [succeeds_of_ok he, after_of_ok he]
      exact Effect.accepted cause hr (replace_ok hs)
    | error error left =>
      rw [hs] at he
      rw [succeeds_of_error he, after_of_error he]
      show Effect P _ _ (some (item.changedBy cause changes), database left)
      rw [replace_error hs]
      exact Effect.refused cause changes _ hr

theorem watchSave_follows {factory : Factory} (hp : P factory) :
    (watchSave (σ := σ) factory).Follows (Effect P) view := by
  rintro ⟨item, store⟩
  show Trail _ (some item, database store) ((watchSave factory).events (item, store))
    (view (after (save factory) (item, store)))
  unfold watchSave
  dsimp only
  cases hr : item.record with
  | some record =>
    rw [after_of_ok (save_of_some factory store hr)]
    exact Trail.nil
  | none =>
    have he := save_of_none factory store hr
    cases hi : RecordStore.insert factory.model item.attributes store with
    | error error left =>
      rw [hi] at he
      rw [after_of_error he]
      show Trail _ _ [] (some item, database left)
      rw [insert_error hi]
      exact Trail.nil
    | ok created middle =>
      have hd := insert_ok hi
      rw [hi] at he
      dsimp only at he ⊢
      by_cases hv : (factory.afterCreating created).attributes.sameValues created.attributes
      · rw [if_pos hv] at he
        rw [succeeds_of_ok he, after_of_ok he]
        exact Trail.single (Effect.saved hp hr hd hv)
      · rw [if_neg hv] at he
        cases hs : RecordStore.replace (factory.afterCreating created)
          (factory.afterCreating created).attributes middle with
        | ok found left =>
          rw [hs] at he
          rw [succeeds_of_ok he, after_of_ok he]
          exact Trail.single (Effect.rewritten hp hr hd (replace_ok hs))
        | error error left =>
          rw [hs] at he
          rw [succeeds_of_error he, after_of_error he]
          show Trail _ _ [Event.lost factory created] (some item, database left)
          rw [replace_error hs]
          exact Trail.single (Effect.lost hp hr hd hv)

end Instance

end Fixtures
