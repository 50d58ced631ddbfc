import Fixtures.Proofs.Block.Step
import Fixtures.Proofs.Store.Numbering

/-!
# Records of a block

A step touches the record of one instance at most, and it does so together with the database
(`RecordChange`): either the record stays and no stored row is lost or altered, or the record is
replaced by the row that was just written under its key, or an instance without a record gets one
whose key was free.  Hooks that move a record to another key are left out here.
-/

namespace Fixtures

open DatabaseBacked

/-! ## Records by position -/

def Roster.record? (roster : Roster) (position : Nat) : Option Record :=
  (roster.instance? position).bind (·.record)

namespace Block

variable {σ : Type}

def record? (block : Block σ) (name : String) (position : Nat) : Option Record :=
  (block.rosters.get? name).bind (·.record? position)

theorem record?_bench (block : Block σ) (name : String) (position : Nat) :
    (block.bench name).roster.record? position = block.record? name position := by
  unfold bench record?
  cases block.rosters.get? name <;> rfl

theorem record?_setBench (block : Block σ) (name : String) (bench : Bench σ) (name' : String)
    (position : Nat) :
    (block.setBench name bench).record? name' position =
      if name' = name then bench.roster.record? position else block.record? name' position := by
  unfold setBench record?
  dsimp only
  rw [SortedMap.get?_insert]
  by_cases h : name' = name
  · rw [if_pos h, if_pos h]
    rfl
  · rw [if_neg h, if_neg h]

end Block

/-! ## Changes of one record -/

/-- What a step does to a record and to the rows of the database. -/
inductive RecordChange (db db' : Database) : Option Record → Option Record → Prop
  -- The record stays, and so does every row.
  | kept (record : Option Record)
      (hd : ∀ model id row, db.find? model id = some row → db'.find? model id = some row) :
      RecordChange db db' record record
  -- The record becomes the new row under its key.
  | rewritten {record found : Record}
      (hm : found.model = record.model) (hi : found.id = record.id)
      (hd : ∀ model id, db'.find? model id =
        if model = record.model ∧ id = record.id then some found else db.find? model id) :
      RecordChange db db' (some record) (some found)
  -- There is a record now, the same as the row under its key, which led to none before.
  | created (record row : Record) (hn : db.find? record.model record.id = none)
      (hs : record.same row)
      (hd : ∀ model id, db'.find? model id =
        if model = record.model ∧ id = record.id then some row else db.find? model id) :
      RecordChange db db' none (some record)

namespace RecordChange

theorem refl (db : Database) (record : Option Record) : RecordChange db db record record :=
  kept record fun _ _ _ h => h

theorem isSome {db db' : Database} {record record' : Option Record}
    (h : RecordChange db db' record record') (hr : record.isSome = true) :
    record'.isSome = true := by
  cases h with
  | kept => exact hr
  | rewritten | created => rfl

end RecordChange

theorem Database.Numbered.find?_insert_of_some {db db' : Database} (hn : db.Numbered)
    {model : String} {attributes : AttributeMap} {record : Record}
    (h : Database.insert model attributes db = .ok record db') {model' : String} {id : Int}
    {row : Record} (hr : db.find? model' id = some row) : db'.find? model' id = some row := by
  rw [hn.find?_insert h, if_neg]
  · exact hr
  · rintro ⟨rfl, rfl⟩
    rw [hn.find?_fresh h] at hr
    cases hr

section

variable {db db' db'' : Database} {model : String} {attributes attributes' : AttributeMap}
  {created record found : Record}

/-- A record that is made of the row just inserted, with its key and its values. -/
theorem Database.Numbered.created_of_insert (hn : db.Numbered)
    (h : Database.insert model attributes db = .ok created db')
    (hm : record.model = created.model) (hi : record.id = created.id)
    (hs : record.same created) : RecordChange db db' none (some record) := by
  refine RecordChange.created record created ?_ hs ?_
  · rw [hm, hi]
    exact hn.find?_fresh h
  · rw [hm, hi]
    exact hn.find?_insert h

/-- The row that takes the place of the row just inserted. -/
theorem Database.Numbered.created_of_replace (hn : db.Numbered)
    (h : Database.insert model attributes db = .ok created db')
    (hm : record.model = created.model) (hi : record.id = created.id)
    (hr : Database.replace record attributes' db' = .ok found db'') :
    RecordChange db db'' none (some found) := by
  have hn' := hn.insert h
  have hf := hn'.replaced_key hr
  refine RecordChange.created found found ?_ (Record.same_refl found) ?_
  · rw [hf.1, hf.2, hm, hi]
    exact hn.find?_fresh h
  · -- Two writes under one key come to the second one.
    intro model id
    rw [hn'.find?_replace hr, hn.find?_insert h, hf.1, hf.2, hm, hi]
    split <;> rfl

end

/-! ## Operations on an instance -/

section

variable {σ : Type} [RecordStore σ] [DatabaseBacked σ]

/-- What an operation on an instance did to its record and to a numbered database. -/
structure RecordStep (item : Instance) (store : σ) (left : Instance × σ) : Prop where
  numbered : (database left.2).Numbered
  change : RecordChange (database store) (database left.2) item.record left.1.record

theorem Instance.revise_recordStep (changes : AttributeMap) (item : Instance) (store : σ)
    (hn : (database store).Numbered) :
    RecordStep item store (after (revise changes) (item, store)) := by
  cases hr : item.record with
  | none =>
    rw [after_of_ok (revise_of_none changes store hr)]
    exact ⟨hn, RecordChange.refl _ _⟩
  | some record =>
    have he := revise_of_some changes store hr
    cases hs : RecordStore.replace record (record.attributes.overlay changes) store with
    | ok found left =>
      rw [hs] at he
      have hd := replace_ok hs
      have hk := hn.replaced_key hd
      rw [after_of_ok he]
      refine ⟨hn.replace hd, ?_⟩
      rw [hr]
      exact RecordChange.rewritten hk.1 hk.2 (hn.find?_replace hd)
    | error error left =>
      rw [hs] at he
      rw [after_of_error he]
      refine ⟨(replace_error hs).symm ▸ hn, ?_⟩
      rw [replace_error hs]
      exact RecordChange.refl _ _

theorem Instance.override_recordStep (overrides : AttributeMap) (item : Instance) (store : σ)
    (hn : (database store).Numbered) :
    RecordStep item store (after (override overrides) (item, store)) := by
  have hs := revise_recordStep overrides
    { item with overrides := item.overrides.overlay overrides } store hn
  exact ⟨hs.numbered, hs.change⟩

theorem Instance.save_recordStep {factory : Factory} (hk : factory.KeepsKeys) (item : Instance)
    (store : σ) (hn : (database store).Numbered) :
    RecordStep item store (after (save factory) (item, store)) := by
  cases hr : item.record with
  | some record =>
    rw [after_of_ok (save_of_some factory store hr)]
    exact ⟨hn, RecordChange.refl _ _⟩
  | none =>
    have he := save_of_none factory store hr
    cases hi : RecordStore.insert factory.model item.attributes store with
    | error error left =>
      rw [hi] at he
      rw [after_of_error he]
      refine ⟨(insert_error hi).symm ▸ hn, ?_⟩
      rw [insert_error hi]
      exact RecordChange.refl _ _
    | ok created left =>
      have hd := insert_ok hi
      have hn' := hn.insert hd
      have hc := hk.afterCreating created
      rw [hi] at he
      dsimp only at he
      by_cases hv : (factory.afterCreating created).attributes.sameValues created.attributes
      · have hsame : (factory.afterCreating created).same created := by
          simp only [Record.same, hc.1, hc.2, hv, beq_self_eq_true, Bool.and_self]
        rw [if_pos hv] at he
        rw [after_of_ok he]
        refine ⟨hn', ?_⟩
        rw [hr]
        exact hn.created_of_insert hd hc.1 hc.2 hsame
      · rw [if_neg hv] at he
        cases hs : RecordStore.replace (factory.afterCreating created)
          (factory.afterCreating created).attributes left with
        | error error left' =>
          rw [hs] at he
          rw [after_of_error he]
          -- The row was inserted and its record is lost, but no instance keeps a record of it.
          refine ⟨(replace_error hs).symm ▸ hn', ?_⟩
          rw [replace_error hs]
          exact RecordChange.kept item.record fun model id row h => hn.find?_insert_of_some hd h
        | ok found left' =>
          rw [hs] at he
          have hd' := replace_ok hs
          rw [after_of_ok he]
          refine ⟨hn'.replace hd', ?_⟩
          rw [hr]
          exact hn.created_of_replace hd hc.1 hc.2 hd'

/-! ## Steps on a bench -/

namespace Bench

variable {factory : Factory} {bench bench' : Bench σ}

/-- What a step of a declaration did to the records of a roster, at one position at most, and to a
numbered database. -/
structure RecordStep (bench bench' : Bench σ) (position : Nat) : Prop where
  numbered : (database bench'.store).Numbered
  others : ∀ p, p ≠ position → bench'.roster.record? p = bench.roster.record? p
  change : RecordChange (database bench.store) (database bench'.store)
    (bench.roster.record? position) (bench'.roster.record? position)

theorem recordStep_of_same (hn : (database bench.store).Numbered)
    (hs : bench'.store = bench.store)
    (hr : ∀ p, bench'.roster.record? p = bench.roster.record? p) : RecordStep bench bench' 0 := by
  refine ⟨hs ▸ hn, fun p _ => hr p, ?_⟩
  rw [hs, hr 0]
  exact RecordChange.refl _ _

theorem recordStep_withInstance {position : Nat} {item : Instance} {left : Instance × σ}
    (hi : bench.roster.instance? position = some item)
    (h : Fixtures.RecordStep item bench.store left) :
    RecordStep bench (bench.withInstance position left) position := by
  have hp := Roster.instance?_setInstance hi left.1
  refine ⟨h.numbered, fun p hne => ?_, ?_⟩
  · show ((bench.roster.setInstance position left.1).instance? p).bind _ = _
    rw [hp, if_neg hne]
    rfl
  · show RecordChange _ _ ((bench.roster.instance? position).bind _)
      (((bench.roster.setInstance position left.1).instance? position).bind _)
    rw [hp, if_pos rfl, hi]
    exact h.change

theorem Step.recordStep (h : Step factory bench bench') (hk : factory.KeepsKeys)
    (hn : (database bench.store).Numbered) : ∃ position, RecordStep bench bench' position := by
  cases h with
  | mark roster hf hi =>
    refine ⟨0, recordStep_of_same hn rfl fun p => ?_⟩
    unfold Roster.record? Roster.instance?
    rw [hi]
  | spend => exact ⟨0, recordStep_of_same hn rfl fun _ => rfl⟩
  | build attributes overrides ha =>
    refine ⟨0, recordStep_of_same hn rfl fun p => ?_⟩
    unfold Roster.record?
    rw [Roster.instance?_push]
    by_cases hp : p = bench.roster.size
    · rw [if_pos hp, hp, Roster.instance?_size]
      rfl
    · rw [if_neg hp]
  | override position item overrides hi =>
    exact ⟨position, recordStep_withInstance hi (item.override_recordStep overrides _ hn)⟩
  | save position item hi =>
    exact ⟨position, recordStep_withInstance hi (item.save_recordStep hk _ hn)⟩

end Bench

/-! ## Steps of a block -/

def Catalog.KeepsKeys (catalog : Catalog) : Prop :=
  ∀ name factory, catalog.factory? name = some factory → factory.KeepsKeys

namespace Block

variable {block block' : Block σ}

/-- What a step of a block did to its records, at one position at most, and to a numbered
database. -/
structure RecordStep (block block' : Block σ) (name : String) (position : Nat) : Prop where
  numbered : (database block'.store).Numbered
  others : ∀ name' position', (name', position') ≠ (name, position) →
    block'.record? name' position' = block.record? name' position'
  change : RecordChange (database block.store) (database block'.store)
    (block.record? name position) (block'.record? name position)

theorem RecordStep.isSome {name : String} {position : Nat}
    (h : RecordStep block block' name position) {name' : String} {position' : Nat}
    (hr : (block.record? name' position').isSome = true) :
    (block'.record? name' position').isSome = true := by
  by_cases hp : (name', position') = (name, position)
  · cases hp
    exact h.change.isSome hr
  · rwa [h.others name' position' hp]

theorem recordStep_setBench {name : String} {bench : Bench σ} {position : Nat}
    (h : Bench.RecordStep (block.bench name) bench position) :
    RecordStep block (block.setBench name bench) name position := by
  refine ⟨h.numbered, fun name' position' hne => ?_, ?_⟩
  · rw [record?_setBench]
    by_cases hname : name' = name
    -- A roster of the same factory differs at one position only.
    · rw [if_pos hname, h.others position' fun hp => hne (by rw [hname, hp]), record?_bench, hname]
    · rw [if_neg hname]
  · rw [record?_setBench, if_pos rfl, ← record?_bench]
    exact h.change

theorem LinkStep.recordStep (h : LinkStep block block') (hn : (database block.store).Numbered) :
    ∃ name position, RecordStep block block' name position := by
  cases h with
  | @key name roster position item field id hr hi =>
    rw [withInstance_eq_setBench hr]
    have hi' : (block.bench name).roster.instance? position = some item := by
      unfold bench
      rw [hr]
      exact hi
    exact ⟨name, position, recordStep_setBench
      (Bench.recordStep_withInstance hi' (item.revise_recordStep _ _ hn))⟩
  | join model attributes =>
    cases hi : RecordStore.insert model attributes block.store with
    | ok record left =>
      have hd := insert_ok hi
      rw [after_of_ok hi]
      exact ⟨"", 0, hn.insert hd, fun _ _ _ => rfl,
        RecordChange.kept _ fun _ _ _ hr => hn.find?_insert_of_some hd hr⟩
    | error error left =>
      have hd := insert_error hi
      rw [after_of_error hi]
      refine ⟨"", 0, hd.symm ▸ hn, fun _ _ _ => rfl, ?_⟩
      dsimp only
      rw [hd]
      exact RecordChange.refl _ _

/-- A step touches one record at most, provided that the hooks keep the keys of records. -/
theorem Step.recordStep (h : Step block block') (hk : block.workshop.catalog.KeepsKeys)
    (hn : (database block.store).Numbered) :
    ∃ name position, RecordStep block block' name position := by
  cases h with
  | @declare name factory bench hf hs =>
    obtain ⟨position, hp⟩ := hs.recordStep (hk name factory hf) hn
    exact ⟨name, position, recordStep_setBench hp⟩
  | link h => exact h.recordStep hn

end Block

end

end Fixtures
