import Fixtures.Proofs.History.Run
import Fixtures.Proofs.Store.Graft

/-!
# What lasts

An instance stays at its place with its index, and once it is saved, its record keeps model and
key, whatever happens afterwards (`Block.lasts_performAll`).  A hook may give a new record another
key, but only as the instance is saved, which happens once.  The constraints of the database last as
well (`Block.alike_perform`).
-/

namespace Fixtures

open DatabaseBacked

/-- What remains of an instance: its index, and the key of its record from when there is one. -/
structure Instance.Lasts (item item' : Instance) : Prop where
  index : item'.index = item.index
  record : ∀ record, item.record = some record →
    ∃ record', item'.record = some record' ∧ record'.key = record.key

namespace Instance.Lasts

variable {item item' item'' : Instance}

theorem refl (item : Instance) : item.Lasts item := ⟨rfl, fun record h => ⟨record, h, rfl⟩⟩

theorem trans (h : item.Lasts item') (h' : item'.Lasts item'') : item.Lasts item'' := by
  refine ⟨h'.index.trans h.index, fun record hr => ?_⟩
  obtain ⟨record', hr', hk⟩ := h.record record hr
  obtain ⟨record'', hr'', hk'⟩ := h'.record record' hr'
  exact ⟨record'', hr'', hk'.trans hk⟩

/-- Of an instance without a record only the index has to remain. -/
theorem of_none (hx : item'.index = item.index) (hr : item.record = none) : item.Lasts item' :=
  ⟨hx, fun record h => by rw [hr] at h; cases h⟩

end Instance.Lasts

theorem Effect.lasts {P : Factory → Prop} {item : Instance} {db db' : Database} {event : Event}
    {new : Option Instance} (h : Effect P (some item, db) event (new, db')) (hn : db.Numbered) :
    ∃ item', new = some item' ∧ item.Lasts item' := by
  cases h with
  | changed cause changes db hr =>
    exact ⟨_, rfl, Instance.Lasts.of_none (item.changedBy_index cause changes) hr⟩
  | @accepted _ record found _ _ cause changes hr hd =>
    refine ⟨_, rfl, item.changedBy_index cause changes, fun old ho => ⟨found, rfl, ?_⟩⟩
    -- The row in the place of the old one has the key that it was asked for by.
    have hk := hn.replaced_key hd
    cases hr.symm.trans ho
    exact Prod.ext hk.1 hk.2
  | refused cause changes db hr =>
    refine ⟨_, rfl, item.changedBy_index cause changes, fun old ho => ⟨old, ?_, rfl⟩⟩
    rw [Instance.changedBy_record]
    exact ho
  | saved hp hr hd hv => exact ⟨_, rfl, Instance.Lasts.of_none rfl hr⟩
  | rewritten hp hr hd hd' => exact ⟨_, rfl, Instance.Lasts.of_none rfl hr⟩
  | lost hp hr hd hv => exact ⟨item, rfl, Instance.Lasts.refl item⟩

/-- Events write to tables, and leave the constraints alone. -/
theorem Effect.alike {P : Factory → Prop} {old new : Option Instance × Database} {event : Event}
    (h : Effect P old event new) : old.2.Alike new.2 := by
  cases h with
  | built | changed | refused => exact ⟨rfl, rfl⟩
  | accepted _ _ hd => exact Database.alike_replace hd
  | saved _ _ hd _ => exact Database.alike_insert hd
  | rewritten _ _ hd hd' => exact (Database.alike_insert hd).trans (Database.alike_replace hd')
  | lost _ _ hd _ => exact Database.alike_insert hd

namespace Scene

variable {ι : Type} {made scene scene' : Scene ι}

theorem Step.alike [DecidableEq ι] {P : ι → Factory → Prop} {incident : Incident ι}
    (h : Step P scene incident scene') : scene.database.Alike scene'.database := by
  cases h with
  | of h => exact h.alike
  | joined hd => exact Database.alike_insert hd

/-- Whatever there was is still there. -/
def Lasts (made scene : Scene ι) : Prop :=
  ∀ place item, made.instance? place = some item →
    ∃ item', scene.instance? place = some item' ∧ item.Lasts item'

theorem Lasts.refl (scene : Scene ι) : scene.Lasts scene := fun _ item h =>
  ⟨item, h, Instance.Lasts.refl item⟩

theorem Step.lasts [DecidableEq ι] {P : ι → Factory → Prop} {incident : Incident ι}
    (h : Step P scene incident scene') (hn : scene.database.Numbered)
    (hl : made.Lasts scene) : made.Lasts scene' := by
  intro place item hi
  obtain ⟨now, hnow, hitem⟩ := hl place item hi
  cases h with
  | @of place' event left he =>
    rw [instance?_put]
    by_cases hp : place = place'
    · rw [if_pos hp]
      unfold part at he
      rw [← hp, hnow] at he
      obtain ⟨next, hnext, hlast⟩ := he.lasts hn
      exact ⟨next, hnext, hitem.trans hlast⟩
    · rw [if_neg hp]
      exact ⟨now, hnow, hitem⟩
  | joined hd => exact ⟨now, hnow, hitem⟩

/-- What there was at the beginning of a trail is there at its end. -/
theorem lasts_of_trail [DecidableEq ι] {P : ι → Factory → Prop} {incidents : List (Incident ι)}
    (h : Trail (Step P) made incidents scene) (hn : made.database.Numbered) :
    made.Lasts scene := by
  have hk := Trail.invariant (P := fun scene => scene.database.Numbered ∧ made.Lasts scene) h
    ⟨hn, Lasts.refl made⟩ fun _ _ _ hs hstep => ⟨hstep.numbered hs.1, hstep.lasts hs.1 hs.2⟩
  exact hk.2

end Scene

namespace Block

variable {σ : Type} [RecordStore σ] [DatabaseBacked σ]

theorem alike_perform (statement : Statement) (block : Block σ) :
    (database block.store).Alike (database (after (perform statement) block).store) := by
  have ht : (watch statement).FollowsAt (Scene.Step fun _ _ => True) view block :=
    watch_followsAt statement fun _ _ _ _ => trivial
  unfold Watched.FollowsAt at ht
  rw [watch_operation] at ht
  exact ht.invariant (P := fun scene : Scene (String × Nat) =>
    (database block.store).Alike scene.database) ⟨rfl, rfl⟩
    fun _ _ _ hs hstep => hs.trans hstep.alike

/-- A run makes steps among instances of any factories. -/
theorem trail_performAll (attempts : List Attempt) (block : Block σ) :
    Trail (Scene.Step fun _ _ => True) block.view (seen attempts block)
      (after (performAll attempts) block).view :=
  seen_trail (Q := fun _ => True) (fun _ _ _ _ _ _ => trivial) (fun _ _ _ _ => trivial) trivial

theorem numbered_performAll (attempts : List Attempt) (block : Block σ)
    (hn : (database block.store).Numbered) :
    (database (after (performAll attempts) block).store).Numbered :=
  (trail_performAll attempts block).invariant
    (P := fun scene : Scene (String × Nat) => scene.database.Numbered) hn
    fun _ _ _ hs hstep => hstep.numbered hs

/-- Whatever there is in a block is still there after a run of further statements, whichever of
them fail. -/
theorem lasts_performAll (attempts : List Attempt) (block : Block σ)
    (hn : (database block.store).Numbered) :
    block.view.Lasts (after (performAll attempts) block).view :=
  Scene.lasts_of_trail (trail_performAll attempts block) hn

end Block

end Fixtures
