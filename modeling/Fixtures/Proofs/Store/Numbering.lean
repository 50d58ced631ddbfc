import Fixtures.Proofs.Store.Backing

/-!
# Keys of a database

A table gives its rows the keys 1, 2, 3 and so on in the order of their insertion, and nothing that
can be done to a database changes that (`Database.Reachable.numbered`).  So a key leads to one row
at most, the key of a new row leads to none before, and a write changes what is found under the key
it is about and under no other.
-/

namespace Fixtures

def Record.key (record : Record) : String × Int := (record.model, record.id)

namespace Table

/-- The rows are those of `model`, numbered from one in their order. -/
structure Numbered (model : String) (table : Table) : Prop where
  lastId : table.lastId = table.rows.length
  ids : ∀ (i : Nat) row, table.rows[i]? = some row → row.id = (i : Int) + 1
  models : ∀ row ∈ table.rows, row.model = model

/-- What replacing in a list of rows finds and leaves. -/
theorem replaceIn_eq_some {id : Int} {attributes : AttributeMap} {rows left : List Record}
    {found : Record} (h : replaceIn id attributes rows = some (found, left)) :
    ∃ i old, rows[i]? = some old ∧ old.id = id ∧ found = { old with attributes } ∧
      left = rows.set i found := by
  induction rows generalizing left with
  | nil => simp [replaceIn] at h
  | cons row rows ih =>
    unfold replaceIn at h
    split at h
    · rename_i hid
      cases h
      exact ⟨0, row, rfl, hid, rfl, rfl⟩
    · rw [Option.map_eq_some_iff] at h
      obtain ⟨⟨found', left'⟩, hrec, he⟩ := h
      cases he
      obtain ⟨i, old, hi, hid, hf, hl⟩ := ih hrec
      -- The row is one of the rest, so it is one place further on.
      exact ⟨i + 1, old, hi, hid, hf, by rw [hl]; rfl⟩

/-- Another row in the place of one does not matter to a key that neither of the two has. -/
theorem find?_set_of_ne {rows : List Record} {i : Nat} {old new : Record} {id : Int}
    (hi : rows[i]? = some old) (hold : old.id ≠ id) (hnew : new.id ≠ id) :
    (rows.set i new).find? (·.id == id) = rows.find? (·.id == id) := by
  induction rows generalizing i with
  | nil => rfl
  | cons row rows ih =>
    cases i with
    | zero =>
      cases hi
      rw [List.set_cons_zero, List.find?_cons_of_neg (by simpa using hnew),
        List.find?_cons_of_neg (by simpa using hold)]
    | succ i =>
      rw [List.set_cons_succ, List.find?_cons, List.find?_cons, ih hi]

namespace Numbered

variable {model : String} {table : Table}

theorem empty (model : String) : Numbered model {} :=
  ⟨rfl, fun _ _ h => by simp at h, fun _ h => by simp at h⟩

theorem id_le (h : table.Numbered model) {row : Record} (hr : row ∈ table.rows) :
    row.id ≤ table.lastId := by
  obtain ⟨i, hi⟩ := List.mem_iff_getElem?.mp hr
  have hlt := (List.getElem?_eq_some_iff.mp hi).1
  rw [h.ids i row hi, h.lastId]
  omega

theorem find? (h : table.Numbered model) {i : Nat} {row : Record}
    (hi : table.rows[i]? = some row) : table.rows.find? (·.id == row.id) = some row := by
  rw [List.find?_eq_some_iff_getElem]
  have hlt := List.getElem?_eq_some_iff.mp hi
  refine ⟨by simp, i, hlt.1, hlt.2, fun j hj => ?_⟩
  -- A row before it has the key of its own place, which is a smaller one.
  have hid := h.ids j _ (List.getElem?_eq_getElem (Nat.lt_trans hj hlt.1))
  rw [h.ids i row hi, hid, Bool.not_eq_true', beq_eq_false_iff_ne]
  omega

theorem push (h : table.Numbered model) (attributes : AttributeMap) :
    Numbered model
      { lastId := table.lastId + 1
        rows := table.rows ++ [{ model, id := table.lastId + 1, attributes }] } where
  lastId := by rw [List.length_append, h.lastId]; rfl
  ids i row hi := by
    by_cases hlt : i < table.rows.length
    · rw [List.getElem?_append_left hlt] at hi
      exact h.ids i row hi
    · rw [List.getElem?_append_right (by omega), List.getElem?_singleton] at hi
      split at hi
      · cases hi
        have hl := h.lastId
        dsimp only
        omega
      · cases hi
  models row hr := by
    rcases List.mem_append.mp hr with hr | hr
    · exact h.models row hr
    · rw [List.mem_singleton.mp hr]

theorem set (h : table.Numbered model) {i : Nat} {old : Record}
    (hi : table.rows[i]? = some old) (attributes : AttributeMap) :
    Numbered model { table with rows := table.rows.set i { old with attributes } } where
  lastId := by rw [List.length_set]; exact h.lastId
  ids j row hj := by
    by_cases hij : i = j
    · subst hij
      have hlt := (List.getElem?_eq_some_iff.mp hi).1
      rw [List.getElem?_set_self hlt] at hj
      cases hj
      exact h.ids i old hi
    · rw [List.getElem?_set_ne hij] at hj
      exact h.ids j row hj
  models row hr := by
    rcases List.mem_or_eq_of_mem_set hr with hr | rfl
    · exact h.models row hr
    · exact h.models old (List.mem_of_getElem? hi)

end Numbered

end Table

namespace Database

variable {db db' : Database} {model : String} {attributes : AttributeMap} {record found : Record}

@[simp] theorem table_with_insert (db : Database) (model model' : String) (table : Table) :
    ({ db with tables := db.tables.insert model table } : Database).table model' =
      if model' = model then table else db.table model' := by
  unfold Database.table
  rw [SortedMap.get?_insert]
  split <;> rfl

/-! ## What the writes do -/

theorem insert_eq_ok_iff :
    insert model attributes db = .ok record db' ↔
      db.violation? model attributes none = none ∧
        record = { model, id := (db.table model).lastId + 1, attributes } ∧
        db' = { db with
          tables := db.tables.insert model
            { lastId := (db.table model).lastId + 1
              rows := (db.table model).rows ++ [record] } } := by
  unfold insert
  cases hv : db.violation? model attributes none with
  | some error => simp
  | none =>
    constructor
    · intro h
      cases h
      exact ⟨rfl, rfl, rfl⟩
    · rintro ⟨-, rfl, rfl⟩
      rfl

theorem replace_eq_ok (h : replace record attributes db = .ok found db') :
    db.violation? record.model attributes (some record.id) = none ∧
      ∃ i old, (db.table record.model).rows[i]? = some old ∧ old.id = record.id ∧
        found = { old with attributes } ∧
        db' = { db with
          tables := db.tables.insert record.model
            { (db.table record.model) with
              rows := (db.table record.model).rows.set i found } } := by
  unfold replace at h
  split at h
  · cases h
  · rename_i hv
    dsimp only at h
    split at h
    · cases h
    · rename_i row rows hr
      cases h
      obtain ⟨i, old, hi, hid, hf, hl⟩ := Table.replaceIn_eq_some hr
      exact ⟨hv, i, old, hi, hid, hf, by rw [hl]⟩

/-! ## Databases that can come up -/

def Numbered (db : Database) : Prop := ∀ model, (db.table model).Numbered model

/-- The rows of a model say which key was given out last. -/
theorem Numbered.table_eq (hn : db.Numbered) (hn' : db'.Numbered)
    (h : db.all model = db'.all model) : db.table model = db'.table model := by
  have hrows : (db.table model).rows = (db'.table model).rows := h
  have hlast : (db.table model).lastId = (db'.table model).lastId := by
    rw [(hn model).lastId, (hn' model).lastId, hrows]
  generalize db.table model = table at hrows hlast ⊢
  generalize db'.table model = table' at hrows hlast ⊢
  cases table
  cases hrows
  cases hlast
  rfl

/-- The databases that can come up, by setting constraints, writing and clearing. -/
inductive Reachable : Database → Prop
  | start : Reachable {}
  | constrain {db : Database} (unique required : List (String × String)) :
      Reachable db → Reachable { db with unique, required }
  | insert {db : Database} (model : String) (attributes : AttributeMap) :
      Reachable db → Reachable (after (Database.insert model attributes) db)
  | replace {db : Database} (record : Record) (attributes : AttributeMap) :
      Reachable db → Reachable (after (Database.replace record attributes) db)
  | clear {db : Database} : Reachable db → Reachable db.clear

theorem Numbered.insert (hn : db.Numbered) (h : insert model attributes db = .ok record db') :
    db'.Numbered := by
  obtain ⟨-, hr, rfl⟩ := insert_eq_ok_iff.mp h
  intro model'
  rw [table_with_insert]
  split
  · rename_i he
    rw [he, hr]
    exact (hn model).push attributes
  · exact hn model'

theorem Numbered.replace (hn : db.Numbered) (h : replace record attributes db = .ok found db') :
    db'.Numbered := by
  obtain ⟨-, i, old, hi, -, rfl, rfl⟩ := replace_eq_ok h
  intro model'
  rw [table_with_insert]
  split
  · rename_i he
    rw [he]
    exact (hn record.model).set hi attributes
  · exact hn model'

theorem Reachable.numbered (h : db.Reachable) : db.Numbered := by
  induction h with
  | start => exact fun model => Table.Numbered.empty model
  | constrain _ _ _ ih => exact ih
  | @insert db model attributes _ ih =>
    cases hi : Database.insert model attributes db with
    -- A write that fails leaves the database as it was.
    | ok record left => rw [after_of_ok hi]; exact ih.insert hi
    | error error left => rw [after_of_error hi, insert_error hi]; exact ih
  | @replace db record attributes _ ih =>
    cases hr : Database.replace record attributes db with
    | ok found left => rw [after_of_ok hr]; exact ih.replace hr
    | error error left => rw [after_of_error hr, replace_error hr]; exact ih
  | clear _ _ => exact fun model => Table.Numbered.empty model

/-! ## What is found under a key -/

/-- The key of a new row leads to no row before. -/
theorem Numbered.find?_fresh (hn : db.Numbered)
    (h : Database.insert model attributes db = .ok record db') :
    db.find? record.model record.id = none := by
  obtain ⟨-, rfl, -⟩ := insert_eq_ok_iff.mp h
  unfold Database.find? Database.all
  rw [List.find?_eq_none]
  intro row hr
  have hle := (hn model).id_le hr
  simp only [beq_iff_eq]
  omega

theorem Numbered.find?_insert (hn : db.Numbered)
    (h : Database.insert model attributes db = .ok record db') (model' : String) (id : Int) :
    db'.find? model' id =
      if model' = record.model ∧ id = record.id then some record else db.find? model' id := by
  have hfresh := hn.find?_fresh h
  obtain ⟨-, hr, rfl⟩ := insert_eq_ok_iff.mp h
  have hm : record.model = model := by rw [hr]
  unfold Database.find? Database.all at hfresh ⊢
  rw [table_with_insert, hm]
  rw [hm] at hfresh
  by_cases he : model' = model
  · subst he
    -- The new row is the last one, and is reached only if no other has the key.
    rw [if_pos rfl, List.find?_append]
    by_cases hid : id = record.id
    · rw [if_pos ⟨rfl, hid⟩, hid, hfresh]
      simp
    · rw [if_neg (fun hc => hid hc.2)]
      simp [Ne.symm hid]
  · rw [if_neg he, if_neg (fun hc => he hc.1)]

theorem Numbered.find?_replace (hn : db.Numbered)
    (h : Database.replace record attributes db = .ok found db') (model' : String) (id : Int) :
    db'.find? model' id =
      if model' = record.model ∧ id = record.id then some found else db.find? model' id := by
  have hn' := hn.replace h
  obtain ⟨-, i, old, hi, hid, hf, rfl⟩ := replace_eq_ok h
  have hlt := (List.getElem?_eq_some_iff.mp hi).1
  have hfid : found.id = record.id := by rw [hf]; exact hid
  by_cases he : model' = record.model
  · subst he
    by_cases hk : id = record.id
    · have hfind := (hn' record.model).find? (i := i) (by
        rw [table_with_insert, if_pos rfl]
        exact List.getElem?_set_self hlt)
      rw [if_pos ⟨rfl, hk⟩, hk, ← hfid]
      exact hfind
    · rw [if_neg (fun hc => hk hc.2)]
      unfold Database.find? Database.all
      rw [table_with_insert, if_pos rfl]
      -- The row that changes has another key than `id`, before and after.
      exact Table.find?_set_of_ne hi (hid ▸ Ne.symm hk) (hfid ▸ Ne.symm hk)
  · rw [if_neg (fun hc => he hc.1)]
    unfold Database.find? Database.all
    rw [table_with_insert, if_neg he]

theorem Numbered.replaced_key (hn : db.Numbered)
    (h : Database.replace record attributes db = .ok found db') :
    found.model = record.model ∧ found.id = record.id := by
  obtain ⟨-, i, old, hi, hid, rfl, -⟩ := replace_eq_ok h
  exact ⟨(hn record.model).models old (List.mem_of_getElem? hi), hid⟩

/-- The row that replaces another is the record as it was given, with the new attributes. -/
theorem Numbered.replaced_eq (hn : db.Numbered)
    (h : Database.replace record attributes db = .ok found db') :
    found = { record with attributes } := by
  obtain ⟨hm, hid⟩ := hn.replaced_key h
  obtain ⟨-, i, old, -, -, rfl, -⟩ := replace_eq_ok h
  obtain ⟨model, id, fields⟩ := record
  cases hm
  cases hid
  rfl

end Database

end Fixtures
