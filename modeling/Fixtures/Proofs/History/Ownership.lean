import Fixtures.Proofs.Block.Agreement
import Fixtures.Proofs.History.Law

/-!
# Rows and the instances they were inserted for

An instance is saved in several steps, and it counts as saved only after the last one.  So a row
that was inserted for an instance is the record of that instance and of no other, unless the store
refused what the factory made of it (`Block.performAll_owned`).  Such a row is the record of nothing
(`Block.performAll_orphan`), and the instance gets another row when it is declared again.
-/

namespace Fixtures

open DatabaseBacked

/-! ## Keys -/

namespace Database

variable {db db' : Database} {model : String} {attributes : AttributeMap}
  {record created found : Record}

/-- There is a row with this key. -/
def HasKey (db : Database) (key : String × Int) : Prop := (db.find? key.1 key.2).isSome = true

theorem Numbered.not_hasKey (hn : db.Numbered)
    (h : Database.insert model attributes db = .ok created db') : ¬db.HasKey created.key := by
  intro hk
  change (db.find? created.model created.id).isSome = true at hk
  rw [hn.find?_fresh h] at hk
  cases hk

theorem Numbered.hasKey_insert (hn : db.Numbered)
    (h : Database.insert model attributes db = .ok created db') (key : String × Int) :
    db'.HasKey key ↔ key = created.key ∨ db.HasKey key := by
  unfold HasKey
  rw [hn.find?_insert h]
  by_cases hk : key = created.key
  · rw [if_pos ⟨congrArg Prod.fst hk, congrArg Prod.snd hk⟩]
    exact ⟨fun _ => Or.inl hk, fun _ => rfl⟩
  · rw [if_neg fun hc => hk (Prod.ext hc.1 hc.2)]
    exact ⟨Or.inr, fun ho => ho.resolve_left hk⟩

theorem Numbered.hasKey_of_mem (hn : db.Numbered) {row : Record} (hr : row ∈ db.all model) :
    db.HasKey row.key := by
  obtain ⟨i, hi⟩ := List.mem_iff_getElem?.mp hr
  have hm := (hn model).models row hr
  show (db.find? row.model row.id).isSome = true
  rw [hm]
  exact Option.isSome_iff_exists.mpr ⟨row, (hn model).find? hi⟩

theorem Numbered.hasKey_replace (hn : db.Numbered)
    (h : Database.replace record attributes db = .ok found db') (key : String × Int) :
    db'.HasKey key ↔ db.HasKey key := by
  unfold HasKey
  rw [hn.find?_replace h]
  by_cases hk : key = record.key
  · rw [if_pos ⟨congrArg Prod.fst hk, congrArg Prod.snd hk⟩]
    -- There was a row to replace.
    obtain ⟨-, i, old, hi, hid, -, -⟩ := replace_eq_ok h
    have hold := (hn record.model).find? hi
    rw [hid] at hold
    have hs : db.find? key.1 key.2 = some old := by
      rw [hk]
      exact hold
    rw [hs]
    exact Iff.rfl
  · rw [if_neg fun hc => hk (Prod.ext hc.1 hc.2)]

end Database

/-! ## What an event does to keys -/

/-- The row that an event inserts for an instance. With it the hook after creating runs once. -/
def Event.created? : Event → Option Record
  | .saved _ created | .lost _ created => some created
  | .built .. | .changed .. => none

def keyOf (item? : Option Instance) : Option (String × Int) :=
  (item?.bind (·.record)).map Record.key

/-- What an event does to the key of an instance and to the keys in the database. -/
inductive KeyEffect (db db' : Database) : Event → Option (String × Int) →
    Option (String × Int) → Prop
  | kept {event : Event} (key? : Option (String × Int)) (hc : event.created? = none)
      (hd : ∀ key, db'.HasKey key ↔ db.HasKey key) : KeyEffect db db' event key? key?
  | saved (factory : Factory) (created : Record) (hf : ¬db.HasKey created.key)
      (hd : ∀ key, db'.HasKey key ↔ key = created.key ∨ db.HasKey key) :
      KeyEffect db db' (.saved factory created) none (some created.key)
  | lost (factory : Factory) (created : Record) (hf : ¬db.HasKey created.key)
      (hd : ∀ key, db'.HasKey key ↔ key = created.key ∨ db.HasKey key) :
      KeyEffect db db' (.lost factory created) none none

theorem keyOf_of_none {item : Instance} (h : item.record = none) : keyOf (some item) = none := by
  show item.record.map Record.key = none
  rw [h]
  rfl

theorem keyOf_of_some {item : Instance} {record : Record} (h : item.record = some record) :
    keyOf (some item) = some record.key := by
  show item.record.map Record.key = some record.key
  rw [h]
  rfl

theorem Effect.keys {old new : Option Instance × Database} {event : Event}
    (h : Effect Factory.KeepsKeys old event new) (hn : old.2.Numbered) :
    KeyEffect old.2 new.2 event (keyOf old.1) (keyOf new.1) := by
  cases h with
  | built => exact .kept _ rfl fun _ => Iff.rfl
  | @changed item cause changes db hr =>
    rw [keyOf_of_none hr, keyOf_of_none ((item.changedBy_record cause changes).trans hr)]
    exact .kept _ rfl fun _ => Iff.rfl
  | @accepted item record found db db' cause changes hr hd =>
    have hk := hn.replaced_key hd
    rw [keyOf_of_some hr, keyOf_of_some rfl, show found.key = record.key from Prod.ext hk.1 hk.2]
    exact .kept _ rfl (hn.hasKey_replace hd)
  | @refused item record cause changes db hr =>
    rw [keyOf_of_some hr, keyOf_of_some ((item.changedBy_record cause changes).trans hr)]
    exact .kept _ rfl fun _ => Iff.rfl
  | @saved factory item created db db' hp hr hd hv =>
    have hk := hp.afterCreating created
    rw [keyOf_of_none hr, keyOf_of_some rfl,
      show (factory.afterCreating created).key = created.key from Prod.ext hk.1 hk.2]
    exact .saved factory created (hn.not_hasKey hd) (hn.hasKey_insert hd)
  | @rewritten factory item created found db db' db'' hp hr hd hd' =>
    have hk := hp.afterCreating created
    have hn' := hn.insert hd
    have hf := hn'.replaced_key hd'
    rw [keyOf_of_none hr, keyOf_of_some rfl,
      show found.key = created.key from Prod.ext (hf.1.trans hk.1) (hf.2.trans hk.2)]
    refine .saved factory created (hn.not_hasKey hd) fun key => ?_
    rw [hn'.hasKey_replace hd', hn.hasKey_insert hd]
  | @lost factory item created db db' hp hr hd hv =>
    rw [keyOf_of_none hr]
    exact .lost factory created (hn.not_hasKey hd) (hn.hasKey_insert hd)

/-! ## Accounts of rows -/

/-- The row that an incident inserts, for an instance or to join two records. -/
def Incident.inserted? {ι : Type} : Incident ι → Option Record
  | .of _ event => event.created?
  | .joined row => some row

/-- The rows of a database are those from before and those that the incidents inserted. -/
structure Rows {ι : Type} (before : Database) (incidents : List (Incident ι)) (db : Database) :
    Prop where
  kept : ∀ key, before.HasKey key → db.HasKey key
  accounted : ∀ key, db.HasKey key → before.HasKey key ∨
    ∃ incident ∈ incidents, ∃ row, incident.inserted? = some row ∧ row.key = key
  added : ∀ incident ∈ incidents, ∀ row, incident.inserted? = some row →
    ¬before.HasKey row.key ∧ db.HasKey row.key

namespace Rows

variable {ι : Type} {before db db' : Database} {incidents : List (Incident ι)}
  {incident : Incident ι}

theorem start (db : Database) : Rows db ([] : List (Incident ι)) db where
  kept _ h := h
  accounted _ h := Or.inl h
  added _ h := (List.not_mem_nil h).elim

theorem quiet (h : Rows before incidents db) (hi : incident.inserted? = none)
    (hd : ∀ key, db'.HasKey key ↔ db.HasKey key) : Rows before (incidents ++ [incident]) db' where
  kept key hb := (hd key).mpr (h.kept key hb)
  accounted key hk := by
    rcases h.accounted key ((hd key).mp hk) with hb | ⟨other, ho, hr⟩
    · exact Or.inl hb
    · exact Or.inr ⟨other, List.mem_append_left _ ho, hr⟩
  added other ho row hr := by
    rw [List.mem_append, List.mem_singleton] at ho
    rcases ho with ho | rfl
    · obtain ⟨hb, hk⟩ := h.added other ho row hr
      exact ⟨hb, (hd _).mpr hk⟩
    · rw [hi] at hr
      cases hr

theorem insert (h : Rows before incidents db) {created : Record}
    (hi : incident.inserted? = some created) (hf : ¬db.HasKey created.key)
    (hd : ∀ key, db'.HasKey key ↔ key = created.key ∨ db.HasKey key) :
    Rows before (incidents ++ [incident]) db' where
  kept key hb := (hd key).mpr (Or.inr (h.kept key hb))
  accounted key hk := by
    rcases (hd key).mp hk with rfl | hk
    · exact Or.inr ⟨incident, List.mem_append_right _ (List.mem_singleton_self _), created, hi, rfl⟩
    · rcases h.accounted key hk with hb | ⟨other, ho, hr⟩
      · exact Or.inl hb
      · exact Or.inr ⟨other, List.mem_append_left _ ho, hr⟩
  added other ho row hr := by
    rw [List.mem_append, List.mem_singleton] at ho
    rcases ho with ho | rfl
    · obtain ⟨hb, hk⟩ := h.added other ho row hr
      exact ⟨hb, (hd _).mpr (Or.inr hk)⟩
    · rw [hi] at hr
      cases hr
      exact ⟨fun hb => hf (h.kept _ hb), (hd _).mpr (Or.inl rfl)⟩

end Rows

/-! ## Accounts of keys -/

/-- Only the event that saves an instance adds to the count of those. -/
theorem saves_concat {ι : Type} [DecidableEq ι] {incidents : List (Incident ι)}
    {incident : Incident ι}
    (hs : ∀ place factory created, incident ≠ .of place (.saved factory created)) (place : ι) :
    (history place (incidents ++ [incident])).countP Event.isSaved =
      (history place incidents).countP Event.isSaved := by
  cases incident with
  | joined row => rw [history_concat_joined]
  | of place' event =>
    by_cases hp : place' = place
    · rw [hp, history_concat_self, List.countP_append]
      cases event with
      | saved factory created => exact (hs place' factory created rfl).elim
      | built | changed | lost => rfl
    · rw [history_concat_other hp]

/-- The keys of a database and of the records of instances, as the incidents account for them. -/
structure Ledger {ι : Type} [DecidableEq ι] (before : Database) (incidents : List (Incident ι))
    (key? : ι → Option (String × Int)) (db : Database) : Prop where
  rows : Rows before incidents db
  saved : ∀ place factory created, .of place (.saved factory created) ∈ incidents →
    key? place = some created.key
  owned : ∀ place key, key? place = some key →
    ∃ factory created, .of place (.saved factory created) ∈ incidents ∧ created.key = key
  separate : ∀ place place' key, key? place = some key → key? place' = some key → place = place'
  lost : ∀ place factory created, .of place (.lost factory created) ∈ incidents →
    ∀ place', key? place' ≠ some created.key
  once : ∀ place, (history place incidents).countP Event.isSaved =
    if (key? place).isSome then 1 else 0

namespace Ledger

variable {ι : Type} [DecidableEq ι] {before db db' : Database} {incidents : List (Incident ι)}
  {incident : Incident ι} {key? : ι → Option (String × Int)} {place : ι}

theorem start (db : Database) : Ledger db ([] : List (Incident ι)) (fun _ => none) db where
  rows := Rows.start db
  saved _ _ _ h := (List.not_mem_nil h).elim
  owned _ _ h := nomatch h
  separate _ _ _ h := nomatch h
  lost _ _ _ h := (List.not_mem_nil h).elim
  once _ := rfl

theorem hasKey (h : Ledger before incidents key? db) {key : String × Int}
    (hk : key? place = some key) : db.HasKey key := by
  obtain ⟨factory, created, hi, rfl⟩ := h.owned place key hk
  exact (h.rows.added _ hi created rfl).2

/-- An incident that saves no instance leaves the keys of instances, and a row that it loses has a
key that none of them has. -/
theorem unsaved (h : Ledger before incidents key? db)
    (hr : Rows before (incidents ++ [incident]) db')
    (hs : ∀ place factory created, incident ≠ .of place (.saved factory created))
    (hl : ∀ place factory created, incident = .of place (.lost factory created) →
      ¬db.HasKey created.key) :
    Ledger before (incidents ++ [incident]) key? db' where
  rows := hr
  saved place factory created hi := by
    rw [List.mem_append, List.mem_singleton] at hi
    rcases hi with hi | hi
    · exact h.saved place factory created hi
    · exact (hs place factory created hi.symm).elim
  owned place key hk := by
    obtain ⟨factory, created, hi, he⟩ := h.owned place key hk
    exact ⟨factory, created, List.mem_append_left _ hi, he⟩
  separate := h.separate
  lost place factory created hi place' := by
    rw [List.mem_append, List.mem_singleton] at hi
    rcases hi with hi | hi
    · exact h.lost place factory created hi place'
    · exact fun hk => hl place factory created hi.symm (h.hasKey hk)
  once place := (saves_concat hs place).trans (h.once place)

theorem save (h : Ledger before incidents key? db) (factory : Factory) {created : Record}
    (hf : ¬db.HasKey created.key)
    (hd : ∀ key, db'.HasKey key ↔ key = created.key ∨ db.HasKey key) (hp : key? place = none) :
    Ledger before (incidents ++ [.of place (.saved factory created)])
      (Function.update key? place (some created.key)) db' where
  rows := h.rows.insert rfl hf hd
  saved place' factory' created' hi := by
    rw [List.mem_append, List.mem_singleton] at hi
    rw [Function.update_apply]
    rcases hi with hi | hi
    · have hk := h.saved place' factory' created' hi
      rwa [if_neg]
      -- This place has no record yet.
      rintro rfl
      rw [hp] at hk
      cases hk
    · cases hi
      exact if_pos rfl
  owned place' key hk := by
    rw [Function.update_apply] at hk
    split at hk
    · rename_i he
      cases hk
      exact ⟨factory, created, by simp [he], rfl⟩
    · obtain ⟨factory, created, hi, he⟩ := h.owned place' key hk
      exact ⟨factory, created, List.mem_append_left _ hi, he⟩
  separate p p' key hk hk' := by
    rw [Function.update_apply] at hk hk'
    split at hk
    · rename_i he
      split at hk'
      · rename_i he'
        rw [he, he']
      · cases hk
        exact absurd (h.hasKey hk') hf
    · split at hk'
      · cases hk'
        exact absurd (h.hasKey hk) hf
      · exact h.separate p p' key hk hk'
  lost place' factory' created' hi p := by
    have hi' : .of place' (.lost factory' created') ∈ incidents := by simpa using hi
    rw [Function.update_apply]
    split
    · -- The key of a lost row is taken, and the new key was free.
      intro he
      have hkey := (h.rows.added _ hi' created' rfl).2
      rw [← Option.some.inj he] at hkey
      exact hf hkey
    · exact h.lost place' factory' created' hi' p
  once place' := by
    rw [Function.update_apply]
    by_cases he : place' = place
    · have hz := h.once place
      rw [hp] at hz
      rw [he, history_concat_self, List.countP_append, hz, if_pos rfl]
      rfl
    · rw [history_concat_other (Ne.symm he), if_neg he]
      exact h.once place'

/-- A step in which hooks keep the keys of records is accounted for. -/
theorem step {scene scene' : Scene ι} {incident : Incident ι}
    (h : Ledger before incidents (fun place => keyOf (scene.instance? place)) scene.database)
    (hn : scene.database.Numbered)
    (hs : Scene.Step (fun _ => Factory.KeepsKeys) scene incident scene') :
    Ledger before (incidents ++ [incident])
      (fun place => keyOf (scene'.instance? place)) scene'.database := by
  cases hs with
  | joined hd =>
    exact h.unsaved (h.rows.insert rfl (hn.not_hasKey hd) (hn.hasKey_insert hd)) nofun nofun
  | @of place event part he =>
    have hk := he.keys hn
    have hkey : (fun p => keyOf ((scene.put place part).instance? p)) =
        Function.update (fun p => keyOf (scene.instance? p)) place (keyOf part.1) := by
      funext p
      rw [Scene.instance?_put, Function.update_apply]
      split <;> rfl
    rw [hkey]
    change KeyEffect scene.database part.2 event (keyOf (scene.instance? place)) _ at hk
    show Ledger before _ _ part.2
    generalize hold : keyOf (scene.instance? place) = old at hk
    generalize hnew : keyOf part.1 = new at hk
    have hself : Function.update (fun p => keyOf (scene.instance? p)) place old =
        fun p => keyOf (scene.instance? p) := by
      rw [← hold]
      exact Function.update_eq_self place fun p => keyOf (scene.instance? p)
    cases hk with
    | kept _ hc hd =>
      rw [hself]
      refine h.unsaved (h.rows.quiet hc hd) ?_ ?_ <;> rintro _ _ _ ⟨⟩ <;> cases hc
    | saved factory created hf hd => exact h.save factory hf hd hold
    | lost factory created hf hd =>
      rw [hself]
      refine h.unsaved (h.rows.insert rfl hf hd) nofun ?_
      rintro _ _ _ ⟨⟩
      exact hf

end Ledger

/-! ## Blocks -/

/-- What has become of the rows of a database, and of those that were inserted for instances. -/
structure Owned (before left : Database) (incidents : List (Incident (String × Nat)))
    (record? : String → Nat → Option Record) : Prop where
  accounted : ∀ model, ∀ row ∈ left.all model, before.HasKey row.key ∨
    (∃ joined, .joined joined ∈ incidents ∧ joined.key = row.key) ∨
    ∃ place event created, .of place event ∈ incidents ∧ event.created? = some created ∧
      created.key = row.key
  added : ∀ place event created, .of place event ∈ incidents → event.created? = some created →
    ¬before.HasKey created.key ∧ left.HasKey created.key
  -- The row is the record of the instance that it was inserted for, and of no other.
  saved : ∀ place factory created, .of place (.saved factory created) ∈ incidents →
    ∀ name position, (∃ record, record? name position = some record ∧ record.key = created.key) ↔
      (name, position) = place
  -- The row is the record of no instance.
  lost : ∀ place factory created, .of place (.lost factory created) ∈ incidents →
    ∀ name position record, record? name position = some record → record.key ≠ created.key
  once : ∀ place, (history place incidents).countP Event.isSaved ≤ 1
  -- The hook runs with every row that is inserted for an instance.
  hooks : ∀ place, (∀ factory created, .lost factory created ∉ history place incidents) →
    (history place incidents).countP (·.created?.isSome) ≤ 1

namespace Block

variable {σ : Type} [RecordStore σ] [DatabaseBacked σ]

theorem keyOf_view (block : Block σ) (name : String) (position : Nat) :
    keyOf (block.view.instance? (name, position)) =
      (block.record? name position).map Record.key := by
  rw [record?_eq_view]
  rfl

/-- Without a lost row, every row inserted for an instance saved it. -/
theorem countP_created {events : List Event}
    (h : ∀ factory created, .lost factory created ∉ events) :
    events.countP (·.created?.isSome) = events.countP Event.isSaved := by
  apply List.countP_congr
  intro event he
  cases event with
  | lost factory created => exact absurd he (h factory created)
  | built | changed | saved => rfl

theorem owned_of_ledger {before : Database} {incidents : List (Incident (String × Nat))}
    {block : Block σ} (hn : (database block.store).Numbered)
    (h : Ledger before incidents (fun place => keyOf (block.view.instance? place))
      (database block.store)) :
    Owned before (database block.store) incidents block.record? := by
  have hkey : ∀ name position record, block.record? name position = some record →
      keyOf (block.view.instance? (name, position)) = some record.key := by
    intro name position record hrec
    rw [keyOf_view, hrec]
    rfl
  have honce : ∀ place, (history place incidents).countP Event.isSaved ≤ 1 := by
    intro place
    rw [h.once]
    split <;> omega
  exact {
    accounted := fun model row hm => by
      rcases h.rows.accounted _ (hn.hasKey_of_mem hm) with hb | ⟨incident, hi, created, hc, he⟩
      · exact Or.inl hb
      · cases incident with
        | joined =>
          cases hc
          exact Or.inr (Or.inl ⟨created, hi, he⟩)
        | of place event => exact Or.inr (Or.inr ⟨place, event, created, hi, hc, he⟩)
    added := fun place event created hi hc => h.rows.added _ hi created hc
    saved := fun place factory created hi name position => by
      constructor
      · rintro ⟨record, hrec, he⟩
        exact h.separate _ _ _ (hkey _ _ _ hrec) (he ▸ h.saved place factory created hi)
      · rintro rfl
        have hown := h.saved _ factory created hi
        rw [keyOf_view, Option.map_eq_some_iff] at hown
        exact hown
    lost := fun place factory created hi name position record hrec he =>
      h.lost place factory created hi _ ((hkey _ _ _ hrec).trans (congrArg some he))
    once := honce
    hooks := fun place hl => by
      rw [countP_created hl]
      exact honce place }

/-- After any run, caught failures or not, a row that a declaration inserted is the record of
exactly the instance that it was inserted for, provided that the store accepted what the hook made
of it, and the record of no instance otherwise. -/
theorem performAll_owned (workshop : Workshop) (store : σ) (attempts : List Attempt)
    (hk : workshop.catalog.KeepsKeys) (hr : (database store).Reachable)
    (hs : ∀ attempt ∈ attempts, attempt.statement.KeepsKeys) :
    Owned (database store) (database (after (performAll attempts) (start workshop store)).store)
      (seen attempts (start workshop store))
      (after (performAll attempts) (start workshop store)).record? := by
  have ht : Trail (Scene.Step (fun _ => Factory.KeepsKeys)) (start workshop store).view
      (seen attempts (start workshop store))
      (after (performAll attempts) (start workshop store)).view :=
    seen_trail (Q := Catalog.KeepsKeys) (fun _ h name factory hf _ => h name factory hf)
      (fun attempt ha _ h => h.catalogAfter (hs attempt ha))
      ((start_catalog workshop store).symm ▸ hk)
  generalize after (performAll attempts) (start workshop store) = block at ht ⊢
  have hstart : (database store).Numbered ∧ Ledger (database store) []
      (fun place => keyOf ((start workshop store).view.instance? place)) (database store) :=
    ⟨hr.numbered, Ledger.start _⟩
  obtain ⟨hn, h⟩ := ht.keeps (P := fun incidents scene => scene.database.Numbered ∧
    Ledger (database store) incidents (fun place => keyOf (scene.instance? place)) scene.database)
    hstart fun _ _ _ _ h hs => ⟨hs.numbered h.1, h.2.step h.1 hs⟩
  exact owned_of_ledger hn h

/-- The hook writes the key of the new record into a field, and the store refuses that once. The
name is declared again after that, which inserts another row and leaves the first one alone. -/
theorem performAll_orphan :
    let user : Factory :=
      { name := "user"
        model := "User"
        fields := (∅ : SortedMap Expression).insert "email" (.template "user{n}@tut.by")
        hooks := { afterCreate := some fun record =>
          { record with attributes := record.attributes.insert "ref" (.int record.id) } } }
    let workshop : Workshop := { catalog := (∅ : Catalog).register user }
    let store : Journal Database := { store := {}, refusedReplaces := [0] }
    let attempts : List Attempt :=
      [⟨.declare "user" .none, true⟩, ⟨.declare "user" .none, false⟩]
    let block := after (performAll attempts) (start workshop store)
    (¬∀ row ∈ (database block.store).all "User", ∃! place : String × Nat,
        ∃ record, block.record? place.1 place.2 = some record ∧ record.key = row.key) ∧
      (history ("user", 0) (seen attempts (start workshop store))).countP
        (·.created?.isSome) = 2 := by
  intro user workshop store attempts block
  have hb : block.rosters = (∅ : SortedMap Roster).insert "user"
      { factory := "user"
        instances := [
          { index := 0
            attributes := (∅ : AttributeMap).insert "email" (.text "user0@tut.by")
            record := some ⟨"User", 2, ((∅ : AttributeMap).insert "email"
              (.text "user0@tut.by")).insert "ref" (.int 2)⟩ }]
        singleton := some 0 } := by decide +kernel
  have hrow : (⟨"User", 1, (∅ : AttributeMap).insert "email" (.text "user0@tut.by")⟩ : Record) ∈
      (database block.store).all "User" := by decide +kernel
  refine ⟨fun h => ?_, by decide +kernel⟩
  obtain ⟨⟨name, position⟩, ⟨record, hr, he⟩, -⟩ := h _ hrow
  unfold record? at hr
  rw [hb, SortedMap.get?_insert] at hr
  by_cases hn : name = "user"
  · rw [if_pos hn] at hr
    cases position with
    | zero =>
      cases hr
      cases he
    | succ position => cases hr
  · rw [if_neg hn] at hr
    cases hr

/-- The first row is accounted for as lost, and the second one is the record. -/
theorem performAll_owned_of_refused :
    let user : Factory :=
      { name := "user"
        model := "User"
        fields := (∅ : SortedMap Expression).insert "email" (.template "user{n}@tut.by")
        hooks := { afterCreate := some fun record =>
          { record with attributes := record.attributes.insert "ref" (.int record.id) } } }
    let workshop : Workshop := { catalog := (∅ : Catalog).register user }
    let store : Journal Database := { store := {}, refusedReplaces := [0] }
    let attempts : List Attempt :=
      [⟨.declare "user" .none, true⟩, ⟨.declare "user" .none, false⟩]
    let block := after (performAll attempts) (start workshop store)
    (database block.store).count "User" = 2 ∧
      Owned (database store) (database block.store) (seen attempts (start workshop store))
        block.record? := by
  refine ⟨by decide +kernel, performAll_owned _ _ _ ?_ Database.Reachable.start ?_⟩
  · refine Catalog.KeepsKeys.register (fun _ _ h => by cases h) fun hook hh record => ?_
    cases hh
    exact ⟨rfl, rfl⟩
  · intro attempt ha
    rw [List.mem_cons, List.mem_singleton] at ha
    rcases ha with rfl | rfl <;> trivial

end Block

end Fixtures
