import Fixtures.Catalog.Related
import Fixtures.Proofs.Store.Numbering

/-!
# What is found by following an association

Selecting by a key finds the row with that key, and following an association comes to selections
in the database of the store, one for each kind of association.
-/

namespace Fixtures

open DatabaseBacked

namespace Database

variable {db : Database} {model field : String} {value : Value} {row : Record} {id : Int}

theorem mem_select : row ∈ db.select model field value ↔
    row ∈ db.all model ∧ (row.field? field).any (·.same value) = true := List.mem_filter

theorem select_id_head? (db : Database) (model : String) (id : Int) :
    (db.select model "id" (.int id)).head? = db.find? model id := by
  unfold select find?
  rw [List.head?_filter]
  rfl

theorem mem_select_of_int (hr : row ∈ db.all model) (hf : row.field? field = some (.int id)) :
    row ∈ db.select model field (.int id) := by
  rw [mem_select, hf]
  exact ⟨hr, Value.same_refl (.int id)⟩

theorem field?_of_mem_select (h : row ∈ db.select model field (.int id)) :
    row.field? field = some (.int id) := by
  have hs := (mem_select.mp h).2
  cases hf : row.field? field with
  | none =>
    rw [hf] at hs
    cases hs
  | some found =>
    rw [hf] at hs
    -- Only an integer is the same as an integer.
    cases found with
    | int n =>
      have hn : (n == id) = true := hs
      rw [eq_of_beq hn]
    | null | bool | float | text | list | object => cases hs

theorem mem_of_find? (h : db.find? model id = some row) : row ∈ db.all model :=
  List.mem_of_find?_eq_some h

end Database

namespace Catalog

variable {σ : Type} [RecordStore σ] {record : Record} {association : Association}

/-- An association of the schema of a record's model is there to be followed. -/
theorem related_eq {catalog : Catalog} {schema : Schema}
    (hs : catalog.schema? record.model = some schema)
    (ha : schema.association? association.name = some association) (store : σ) :
    catalog.related record association.name store =
      .ok (follow record association store).1 (follow record association store).2 := by
  unfold related
  rw [hs, Option.bind_some, ha]

variable [DatabaseBacked σ]

theorem selectFirst_eq (model field : String) (value : Value) (store : σ) :
    (RecordStore.selectFirst model field value store).1 =
      ((database store).select model field value).head? :=
  congrArg List.head? (select_eq model field value store)

theorem database_selectFirst (model field : String) (value : Value) (store : σ) :
    database (RecordStore.selectFirst model field value store).2 = database store :=
  database_select model field value store

theorem recordsByKey_eq (model : String) (keys : List Value) (store : σ) :
    (recordsByKey model keys store).1 =
      keys.flatMap fun key => ((database store).select model "id" key).head?.toList := by
  induction keys generalizing store with
  | nil => rfl
  | cons key keys ih =>
    show (RecordStore.selectFirst model "id" key store).1.toList ++
      (recordsByKey model keys (RecordStore.selectFirst model "id" key store).2).1 = _
    rw [ih, selectFirst_eq, database_selectFirst, List.flatMap_cons]

/-! ## Following, by kind -/

theorem follow_of_belongsTo (hk : association.kind = .belongsTo) {id : Int}
    (hf : record.field? association.foreignKey = some (.int id)) (store : σ) :
    (follow record association store).1 =
      ((database store).find? association.targetModel id).toList := by
  unfold follow
  rw [hk, hf]
  show (RecordStore.selectFirst association.targetModel "id" (.int id) store).1.toList = _
  rw [selectFirst_eq, Database.select_id_head?]

theorem follow_of_hasOne (hk : association.kind = .hasOne) (store : σ) :
    (follow record association store).1 =
      ((database store).select association.targetModel association.foreignKey
        (.int record.id)).head?.toList := by
  unfold follow
  rw [hk]
  exact congrArg Option.toList (selectFirst_eq ..)

theorem follow_of_hasMany (hk : association.kind = .hasMany) (store : σ) :
    (follow record association store).1 =
      (database store).select association.targetModel association.foreignKey
        (.int record.id) := by
  unfold follow
  rw [hk]
  exact select_eq ..

theorem follow_of_manyToMany {through key key' : String}
    (hk : association.kind = .manyToMany through key key') (store : σ) :
    (follow record association store).1 =
      (((database store).select through key (.int record.id)).filterMap (·.field? key')).flatMap
        fun value =>
          ((database store).select association.targetModel "id" value).head?.toList := by
  unfold follow
  rw [hk]
  show (recordsByKey association.targetModel
    ((RecordStore.select through key (.int record.id) store).1.filterMap (·.field? key'))
    (RecordStore.select through key (.int record.id) store).2).1 = _
  rw [recordsByKey_eq, select_eq, database_select]

end Catalog

end Fixtures
