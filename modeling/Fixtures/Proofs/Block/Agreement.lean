import Fixtures.Proofs.Block.Records

/-!
# Records and rows agree

The record that an instance keeps is a copy of a row of the store.  Whatever a block does, and
however often the store refuses, the copy stays the same as the row (`Block.performAll_agrees`), and
no two instances ever keep copies of one row.
-/

namespace Fixtures

open DatabaseBacked

/-- The records, each under the name of its factory and a position, agree with a database: each is
the same as the row under its key, and no two have one key. -/
structure Agrees (db : Database) (record? : String → Nat → Option Record) : Prop where
  stored : ∀ name position record, record? name position = some record →
    ∃ row, db.find? record.model record.id = some row ∧ record.same row
  separate : ∀ name position name' position' record record', record? name position = some record →
    record? name' position' = some record' → (name, position) ≠ (name', position') →
      (record.model, record.id) ≠ (record'.model, record'.id)

namespace Agrees

variable {db db' : Database} {records records' : String → Nat → Option Record}

theorem empty (db : Database) (h : ∀ name position, records name position = none) :
    Agrees db records := by
  refine ⟨fun name position record hr => ?_, fun name position _ _ record _ hr => ?_⟩
  · rw [h] at hr
    cases hr
  · rw [h] at hr
    cases hr

/-- No other record has a key that the database does not know. -/
theorem ne_of_fresh (h : Agrees db records) {name : String} {position : Nat} {record new : Record}
    (hr : records name position = some record) (hn : db.find? new.model new.id = none) :
    (record.model, record.id) ≠ (new.model, new.id) := by
  intro he
  obtain ⟨row, hrow, -⟩ := h.stored name position record hr
  rw [Prod.mk.injEq] at he
  rw [he.1, he.2, hn] at hrow
  cases hrow

/-- A record with a row of its own is not in the way of the other records. -/
theorem set (h : Agrees db records) {name : String} {position : Nat} {record row : Record}
    (ho : ∀ name' position', (name', position') ≠ (name, position) →
      records' name' position' = records name' position')
    (hr : records' name position = some record) (hs : record.same row)
    (hd : ∀ model id, db'.find? model id =
      if model = record.model ∧ id = record.id then some row else db.find? model id)
    (hk : ∀ name' position' record', (name', position') ≠ (name, position) →
      records name' position' = some record' →
        (record'.model, record'.id) ≠ (record.model, record.id)) :
    Agrees db' records' := by
  refine ⟨fun name₁ position₁ record₁ h₁ => ?_,
    fun name₁ position₁ name₂ position₂ record₁ record₂ h₁ h₂ hne => ?_⟩
  · by_cases hp : (name₁, position₁) = (name, position)
    · cases hp
      rw [hr] at h₁
      cases h₁
      exact ⟨row, by rw [hd, if_pos ⟨rfl, rfl⟩], hs⟩
    · rw [ho _ _ hp] at h₁
      obtain ⟨row₁, hrow, hsame⟩ := h.stored _ _ _ h₁
      have hkey := hk _ _ _ hp h₁
      refine ⟨row₁, ?_, hsame⟩
      rw [hd, if_neg]
      · exact hrow
      · rintro ⟨hm, hi⟩
        exact hkey (by rw [hm, hi])
  · by_cases hp₁ : (name₁, position₁) = (name, position)
    · have hp₂ : (name₂, position₂) ≠ (name, position) := fun he => hne (hp₁.trans he.symm)
      cases hp₁
      rw [hr] at h₁
      cases h₁
      rw [ho _ _ hp₂] at h₂
      exact Ne.symm (hk _ _ _ hp₂ h₂)
    · rw [ho _ _ hp₁] at h₁
      by_cases hp₂ : (name₂, position₂) = (name, position)
      · cases hp₂
        rw [hr] at h₂
        cases h₂
        exact hk _ _ _ hp₁ h₁
      · rw [ho _ _ hp₂] at h₂
        exact h.separate _ _ _ _ _ _ h₁ h₂ hne

/-- A change of one record together with the database keeps the agreement. -/
theorem change (h : Agrees db records) {name : String} {position : Nat}
    (ho : ∀ name' position', (name', position') ≠ (name, position) →
      records' name' position' = records name' position')
    (hc : RecordChange db db' (records name position) (records' name position)) :
    Agrees db' records' := by
  generalize hr : records name position = old at hc
  generalize hr' : records' name position = new at hc
  cases hc with
  | kept record hd =>
    -- No record moved, so rows may only have been added.
    have he : records' = records := by
      funext name' position'
      by_cases hp : (name', position') = (name, position)
      · cases hp
        rw [hr, hr']
      · exact ho _ _ hp
    rw [he]
    refine ⟨fun name position record hr => ?_, h.separate⟩
    obtain ⟨row, hrow, hsame⟩ := h.stored name position record hr
    exact ⟨row, hd _ _ _ hrow, hsame⟩
  | @rewritten record found hm hi hd =>
    rw [← hm, ← hi] at hd
    apply h.set ho hr' (Record.same_refl found) hd
    -- The key was that of the old record, which no other record had.
    intro name' position' record' hp hrecord
    rw [hm, hi]
    exact h.separate _ _ _ _ _ _ hrecord hr hp
  | created record row hn hs hd =>
    apply h.set ho hr' hs hd
    -- The key was free, and every other record has a row.
    intro name' position' record' _ hrecord
    exact h.ne_of_fresh hrecord hn

end Agrees

/-! ## Blocks -/

/-- A factory that the statement registers keeps the keys of its records. -/
def Statement.KeepsKeys : Statement → Prop
  | .register factory => factory.KeepsKeys
  | .declare _ _ | .link _ | .linkNames _ _ | .registerSchema _ | .clearCatalog => True

namespace Catalog.KeepsKeys

variable {catalog : Catalog}

theorem register (h : catalog.KeepsKeys) {factory : Factory} (hf : factory.KeepsKeys) :
    (catalog.register factory).KeepsKeys := by
  intro name found hr
  change (catalog.factories.insert factory.name factory).get? name = some found at hr
  rw [SortedMap.get?_insert] at hr
  by_cases hn : name = factory.name
  · rw [if_pos hn] at hr
    cases hr
    exact hf
  · rw [if_neg hn] at hr
    exact h name found hr

theorem catalogAfter (h : catalog.KeepsKeys) {statement : Statement} (hs : statement.KeepsKeys) :
    (Block.catalogAfter statement catalog).KeepsKeys := by
  cases statement with
  | declare | link | linkNames | registerSchema => exact h
  | register factory => exact h.register hs
  | clearCatalog => intro name factory hf; cases hf

end Catalog.KeepsKeys

namespace Block

variable {σ : Type} [RecordStore σ] [DatabaseBacked σ]

/-- What every step keeps: hooks that leave keys alone, a numbered database, and the agreement. -/
structure Sound (block : Block σ) : Prop where
  hooks : block.workshop.catalog.KeepsKeys
  numbered : (database block.store).Numbered
  agrees : Agrees (database block.store) block.record?

theorem Step.sound {block block' : Block σ} (h : Step block block') (hs : block.Sound) :
    block'.Sound := by
  obtain ⟨name, position, hr⟩ := h.recordStep hs.hooks hs.numbered
  exact ⟨h.catalog.symm ▸ hs.hooks, hr.numbered, hs.agrees.change hr.others hr.change⟩

theorem start_sound {workshop : Workshop} {store : σ} (hk : workshop.catalog.KeepsKeys)
    (hr : (database store).Reachable) : (start workshop store).Sound :=
  ⟨(start_catalog workshop store).symm ▸ hk, hr.numbered, Agrees.empty _ fun _ _ => rfl⟩

theorem sound_performAll {workshop : Workshop} {store : σ} {attempts : List Attempt}
    (hk : workshop.catalog.KeepsKeys) (hr : (database store).Reachable)
    (hs : ∀ attempt ∈ attempts, attempt.statement.KeepsKeys) :
    (after (performAll attempts) (start workshop store)).Sound := by
  apply performAll_steps (fun _ _ hstep hsound => hstep.sound hsound) _ (start_sound hk hr)
  intro attempt ha block hsound
  exact ⟨hsound.hooks.catalogAfter (hs attempt ha), hsound.numbered, hsound.agrees⟩

/-- After any run of statements, caught failures or not, every record of the block is the row that
the store has under its key, and no two instances have records with one key. -/
theorem performAll_agrees (workshop : Workshop) (store : σ) (attempts : List Attempt)
    (hk : workshop.catalog.KeepsKeys) (hr : (database store).Reachable)
    (hs : ∀ attempt ∈ attempts, attempt.statement.KeepsKeys) :
    Agrees (database (after (performAll attempts) (start workshop store)).store)
      (after (performAll attempts) (start workshop store)).record? :=
  (sound_performAll hk hr hs).agrees

/-- The hook writes the key of the new record into a field; a later change is refused, and
caught. -/
theorem performAll_agrees_of_refused :
    let user : Factory :=
      { name := "user"
        model := "User"
        hooks := { afterCreate := some fun record =>
          { record with attributes := record.attributes.insert "ref" (.int record.id) } } }
    let workshop : Workshop := { catalog := (∅ : Catalog).register user }
    let store : Journal Database := { store := {}, refusedReplaces := [1] }
    let attempts : List Attempt :=
      [⟨.declare "user" .none, false⟩,
        ⟨.declare "user" (.overrides [(∅ : AttributeMap).insert "ref" (.int 7)]), true⟩]
    let block := after (performAll attempts) (start workshop store)
    block.record? "user" 0 = some ⟨"User", 1, (∅ : AttributeMap).insert "ref" (.int 1)⟩ ∧
      Agrees (database block.store) block.record? := by
  refine ⟨by decide +kernel, performAll_agrees _ _ _ ?_ Database.Reachable.start ?_⟩
  · refine Catalog.KeepsKeys.register (fun _ _ h => by cases h) fun hook hh record => ?_
    cases hh
    exact ⟨rfl, rfl⟩
  · intro attempt ha
    rw [List.mem_cons, List.mem_singleton] at ha
    rcases ha with rfl | rfl <;> trivial

end Block

end Fixtures
