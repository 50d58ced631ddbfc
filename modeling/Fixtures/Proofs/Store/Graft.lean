import Fixtures.Proofs.Store.Numbering
import Fixtures.Proofs.Unnoticed

/-!
# Tables among other tables

A graft puts the table of one model from a database among the tables of another
(`Database.graft`).  A write to that table makes the same of it and ends in the same way wherever
the table is: the other tables go unnoticed, as long as both databases have the same constraints.
-/

namespace Fixtures

namespace SortedMap

universe u

variable {α : Type u}

/-- The map with what another map has under the key. -/
def graft (ground : SortedMap α) (key : String) (m : SortedMap α) : SortedMap α :=
  match m.get? key with
  | some value => ground.insert key value
  | none => ground.erase key

theorem get?_graft (ground : SortedMap α) (key : String) (m : SortedMap α) (k : String) :
    (ground.graft key m).get? k = if k = key then m.get? key else ground.get? k := by
  unfold graft
  cases h : m.get? key with
  | some value => exact get?_insert ground key value k
  | none => exact get?_erase ground key k

@[simp] theorem graft_self (m : SortedMap α) (key : String) : m.graft key m = m := by
  ext k
  rw [get?_graft]
  split
  · rename_i hk
    rw [hk]
  · rfl

/-- What is put in before the graft may be put in after it. -/
theorem graft_insert (ground : SortedMap α) (key : String) (m : SortedMap α) (value : α) :
    ground.graft key (m.insert key value) = (ground.graft key m).insert key value := by
  ext k
  rw [get?_graft, get?_insert_self, get?_insert, get?_graft]
  split <;> rfl

theorem graft_comm (ground : SortedMap α) {key key' : String} (m m' : SortedMap α)
    (h : key ≠ key') :
    (ground.graft key m).graft key' m' = (ground.graft key' m').graft key m := by
  ext k
  simp only [get?_graft]
  by_cases hk : k = key
  · rw [if_pos hk, if_pos hk, if_neg (hk ▸ h)]
  · rw [if_neg hk, if_neg hk]

end SortedMap

namespace Database

variable {ground db : Database} {model : String}

/-- The database with the table of the model from another one. -/
def graft (ground : Database) (model : String) (db : Database) : Database :=
  { ground with tables := ground.tables.graft model db.tables }

/-- The databases have the same constraints. -/
structure Alike (ground db : Database) : Prop where
  unique : db.unique = ground.unique
  required : db.required = ground.required

theorem Alike.trans {db' : Database} (h : ground.Alike db) (h' : db.Alike db') : ground.Alike db' :=
  ⟨h'.unique.trans h.unique, h'.required.trans h.required⟩

theorem alike_insert {db' : Database} {attributes : AttributeMap} {record : Record}
    (h : insert model attributes db = .ok record db') : db.Alike db' := by
  obtain ⟨-, -, rfl⟩ := insert_eq_ok_iff.mp h
  exact ⟨rfl, rfl⟩

theorem alike_replace {db' : Database} {attributes : AttributeMap} {record found : Record}
    (h : replace record attributes db = .ok found db') : db.Alike db' := by
  obtain ⟨-, _, _, -, -, -, rfl⟩ := replace_eq_ok h
  exact ⟨rfl, rfl⟩

@[simp] theorem table_graft (ground : Database) (model : String) (db : Database) :
    (ground.graft model db).table model = db.table model := by
  unfold table graft
  rw [SortedMap.get?_graft, if_pos rfl]

theorem graft_insert (ground : Database) (model : String) (db : Database) (table : Table) :
    ground.graft model { db with tables := db.tables.insert model table } =
      { ground.graft model db with
        tables := (ground.graft model db).tables.insert model table } := by
  unfold graft
  rw [SortedMap.graft_insert]

theorem violation?_graft (h : ground.Alike db) (attributes : AttributeMap)
    (except : Option Int) :
    (ground.graft model db).violation? model attributes except =
      db.violation? model attributes except := by
  unfold violation? blankField? takenField?
  rw [table_graft, h.unique, h.required]
  rfl

theorem insert_graft (model : String) (attributes : AttributeMap) :
    Unnoticed ground.Alike (ground.graft model) (RecordStore.insert model attributes) := by
  intro db h
  show UnnoticedAt _ _ (Database.insert model attributes) db
  refine ⟨?_, ?_⟩
  · unfold Database.insert
    rw [violation?_graft h, table_graft]
    cases db.violation? model attributes none with
    | some error => rfl
    | none => exact congrArg _ (graft_insert ground model db _).symm
  · unfold after Database.insert
    cases db.violation? model attributes none <;> exact ⟨h.unique, h.required⟩

theorem replace_graft {record : Record} (hm : record.model = model) (attributes : AttributeMap) :
    Unnoticed ground.Alike (ground.graft model) (RecordStore.replace record attributes) := by
  subst hm
  intro db h
  show UnnoticedAt _ _ (Database.replace record attributes) db
  refine ⟨?_, ?_⟩
  · unfold replace
    rw [violation?_graft h, table_graft]
    cases db.violation? record.model attributes (some record.id) with
    | some error => rfl
    | none =>
      dsimp only
      cases Table.replaceIn record.id attributes (db.table record.model).rows with
      | none => rfl
      | some found => exact congrArg _ (graft_insert ground record.model db _).symm
  · unfold after replace
    cases db.violation? record.model attributes (some record.id) with
    | some error => exact h
    | none =>
      dsimp only
      cases Table.replaceIn record.id attributes (db.table record.model).rows <;>
        exact ⟨h.unique, h.required⟩

end Database

end Fixtures
