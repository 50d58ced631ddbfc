import Fixtures.Proofs.Store.Following
import Fixtures.Proofs.Unnoticed
import Mathlib.Data.List.Basic

/-!
# Associations in opposite directions

Two models may declare associations that run over the same key, each towards the other: many
records that belong to one, or records on both sides that a third model joins.  Following them from
either side finds the same pairs (`Catalog.related_inverse`).  A field can hold any value, but only
an integer is the key of a row, and in a database that came up by writing it is the key of one row
at most; so both directions come to the same question, which rows hold the key.
-/

namespace Fixtures

open DatabaseBacked

/-! ## Values that are keys -/

theorem Value.same_int (value : Value) (n : Int) :
    value.same (.int n) = decide (value = .int n) := by
  cases value with
  | int m =>
    rw [Bool.eq_iff_iff, decide_eq_true_iff, Value.int.injEq]
    exact beq_iff_eq
  | null | bool | float | text | list | object => rfl

theorem Value.int_same (value : Value) (n : Int) :
    (Value.int n).same value = decide (value = .int n) := by
  rw [Value.same_comm, Value.same_int]

namespace Database

variable {db : Database} {model field : String} {row : Record}

/-- The rows of a model that hold a key in a field, in the order of their insertion. -/
def holders (db : Database) (model field : String) (id : Int) : List Record :=
  (db.all model).filter fun row => row.field? field = some (.int id)

/-- The row of a model whose key a record holds in a field. -/
def held? (db : Database) (model field : String) (record : Record) : Option Record :=
  (db.all model).find? fun row => record.field? field = some (.int row.id)

theorem mem_holders {id : Int} :
    row ∈ db.holders model field id ↔ row ∈ db.all model ∧ row.field? field = some (.int id) := by
  unfold holders
  rw [List.mem_filter, decide_eq_true_iff]

/-- A selection by a key finds the rows that hold it. -/
theorem select_int (db : Database) (model field : String) (id : Int) :
    db.select model field (.int id) = db.holders model field id := by
  unfold select holders
  congr 1
  funext row
  cases row.field? field with
  | none => rfl
  | some value => simp [Value.same_int]

/-- A selection by the primary key begins with the row that the value is the key of. -/
theorem select_id_head?_bind (db : Database) (model field : String) (record : Record) :
    ((record.field? field).bind fun value => (db.select model "id" value).head?) =
      db.held? model field record := by
  unfold held? select
  cases record.field? field with
  | none => exact (List.find?_eq_none.mpr fun row _ h => by simp at h).symm
  | some value =>
    show ((db.all model).filter fun row => (Value.int row.id).same value).head? = _
    rw [List.head?_filter]
    simp only [Value.int_same, Option.some.injEq]

/-! ## One row for each key -/

/-- The keys of the rows increase in the order of their insertion. -/
theorem Numbered.ids_increase (hn : db.Numbered) (model : String) :
    (db.all model).Pairwise fun row row' => row.id < row'.id := by
  rw [List.pairwise_iff_getElem]
  intro i j hi hj hij
  rw [(hn model).ids i _ (List.getElem?_eq_getElem hi),
    (hn model).ids j _ (List.getElem?_eq_getElem hj)]
  omega

theorem Numbered.find?_of_mem (hn : db.Numbered) (hr : row ∈ db.all model) :
    db.find? model row.id = some row := by
  obtain ⟨i, hi⟩ := List.mem_iff_getElem?.mp hr
  exact (hn model).find? hi

/-- A record holds the key of the row that is found for it, and of no other. -/
theorem Numbered.held?_eq_some_iff (hn : db.Numbered) (hr : row ∈ db.all model)
    (record : Record) :
    db.held? model field record = some row ↔ record.field? field = some (.int row.id) := by
  constructor
  · intro h
    unfold held? at h
    have hf := List.find?_some h
    exact of_decide_eq_true hf
  · intro h
    unfold held?
    rw [h, ← hn.find?_of_mem hr]
    unfold find?
    congr 1
    funext other
    rw [Bool.eq_iff_iff, decide_eq_true_iff, beq_iff_eq, Option.some.injEq, Value.int.injEq]
    exact eq_comm

end Database

/-! ## Following in both directions -/

namespace Catalog

/-- The association of a name that the schema of a model has. -/
def association? (catalog : Catalog) (model name : String) : Option Association :=
  (catalog.schema? model).bind (·.association? name)

variable {σ : Type} [RecordStore σ] {catalog : Catalog} {record : Record} {name : String}
  {association : Association}

/-- What an association leads to is what its name leads to, under whichever name the schema has
it. -/
theorem ending_related (h : catalog.association? record.model name = some association)
    (store : σ) :
    ending (catalog.related record name store) = .ok (follow record association store).1 := by
  unfold related
  unfold association? at h
  rw [h]
  rfl

variable [DatabaseBacked σ]

theorem follow_of_belongsTo_eq (hk : association.kind = .belongsTo) (store : σ) :
    (follow record association store).1 =
      ((database store).held? association.targetModel association.foreignKey record).toList := by
  rw [← Database.select_id_head?_bind]
  unfold follow
  rw [hk]
  dsimp only
  cases record.field? association.foreignKey with
  | none => rfl
  | some value =>
    have hf := selectFirst_eq association.targetModel "id" value store
    cases value with
    -- Nothing is asked for a key that is null, and nothing would be found.
    | null =>
      have hnone : (database store).select association.targetModel "id" .null = [] :=
        List.filter_eq_nil_iff.mpr fun _ _ => Bool.false_ne_true
      rw [Option.bind_some, hnone]
      rfl
    | int | bool | float | text | list | object => exact congrArg Option.toList hf

theorem follow_of_hasMany_eq (hk : association.kind = .hasMany) (store : σ) :
    (follow record association store).1 =
      (database store).holders association.targetModel association.foreignKey record.id := by
  rw [follow_of_hasMany hk, Database.select_int]

/-- Joins are followed in their order, and one whose other key leads nowhere is passed over. -/
theorem follow_of_manyToMany_eq {through key key' : String}
    (hk : association.kind = .manyToMany through key key') (store : σ) :
    (follow record association store).1 =
      ((database store).holders through key record.id).filterMap
        ((database store).held? association.targetModel key') := by
  rw [follow_of_manyToMany hk, Database.select_int, ← List.filterMap_eq_flatMap_toList,
    List.filterMap_filterMap]
  congr 1
  funext join
  exact Database.select_id_head?_bind _ _ _ join

/-- The join rows that lead from one row to another are those that hold both keys. -/
theorem mem_follow_of_manyToMany {other through key key' n fk : String} {row : Record}
    {store : σ} (hn : (database store).Numbered) (hr : row ∈ (database store).all other) :
    row ∈ (follow record ⟨n, .manyToMany through key key', other, fk⟩ store).1 ↔
      ∃ join ∈ (database store).all through, join.field? key = some (.int record.id) ∧
        join.field? key' = some (.int row.id) := by
  rw [follow_of_manyToMany_eq rfl, List.mem_filterMap]
  simp only [hn.held?_eq_some_iff hr, Database.mem_holders, and_assoc]

/-- Associations that run over the same keys in opposite directions read consistently, and what
leads to many records lists them in the order of the rows that hold the key. -/
theorem related_inverse {store : σ} (hr : (database store).Reachable) {one other : String}
    {a b : Record} (ha : a ∈ (database store).all one) (hb : b ∈ (database store).all other) :
    (∀ p q key n n', catalog.association? one p = some ⟨n, .hasMany, other, key⟩ →
      catalog.association? other q = some ⟨n', .belongsTo, one, key⟩ →
        ∃ records back, ending (catalog.related a p store) = .ok records ∧
          ending (catalog.related b q store) = .ok back ∧ (b ∈ records ↔ back = [a]) ∧
          records = (database store).holders other key a.id ∧
          records.Pairwise fun row row' => row.id < row'.id) ∧
    (∀ m m' through key key' n n' fk fk',
      catalog.association? one m = some ⟨n, .manyToMany through key key', other, fk⟩ →
      catalog.association? other m' = some ⟨n', .manyToMany through key' key, one, fk'⟩ →
        ∃ records back, ending (catalog.related a m store) = .ok records ∧
          ending (catalog.related b m' store) = .ok back ∧ (b ∈ records ↔ a ∈ back) ∧
          records = ((database store).holders through key a.id).filterMap
            ((database store).held? other key') ∧
          ((database store).holders through key a.id).Pairwise
            fun join join' => join.id < join'.id) := by
  have hn := hr.numbered
  have hma : a.model = one := (hn one).models a ha
  have hmb : b.model = other := (hn other).models b hb
  refine ⟨fun p q key n n' hp hq => ?_, fun m m' through key key' n n' fk fk' hm hm' => ?_⟩
  · rw [← hma] at hp
    rw [← hmb] at hq
    refine ⟨_, _, ending_related hp store, ending_related hq store, ?_, ?_, ?_⟩
    · -- Both sides say that `b` holds the key of `a`.
      rw [follow_of_hasMany_eq rfl, follow_of_belongsTo_eq rfl, Database.mem_holders,
        Option.toList_eq_singleton_iff, hn.held?_eq_some_iff ha]
      exact ⟨fun h => h.2, fun h => ⟨hb, h⟩⟩
    · exact follow_of_hasMany_eq rfl store
    · rw [follow_of_hasMany_eq rfl]
      exact (hn.ids_increase _).filter _
  · rw [← hma] at hm
    rw [← hmb] at hm'
    refine ⟨_, _, ending_related hm store, ending_related hm' store, ?_, ?_, ?_⟩
    · -- Both sides ask for a join that holds both keys.
      rw [mem_follow_of_manyToMany hn hb, mem_follow_of_manyToMany hn ha]
      simp only [and_comm]
    · exact follow_of_manyToMany_eq rfl store
    · exact (hn.ids_increase _).filter _

/-- An author wrote one of two posts and marked it as a favorite. -/
theorem related_inverse_of_posts :
    let author : Schema := (({ model := "Author" } : Schema).add
      ⟨"posts", .hasMany, "Post", "authorId"⟩).add
      ⟨"favorites", .manyToMany "Favorite" "authorId" "postId", "Post", ""⟩
    let post : Schema := (({ model := "Post" } : Schema).add
      ⟨"author", .belongsTo, "Author", "authorId"⟩).add
      ⟨"fans", .manyToMany "Favorite" "postId" "authorId", "Author", ""⟩
    let catalog := ((∅ : Catalog).registerSchema author).registerSchema post
    let keys : AttributeMap :=
      ((∅ : AttributeMap).insert "authorId" (.int 1)).insert "postId" (.int 2)
    let db := after (Database.insert "Favorite" keys) (after (Database.insert "Post" keys)
      (after (Database.insert "Post" ∅) (after (Database.insert "Author" ∅) {})))
    let a : Record := ⟨"Author", 1, ∅⟩
    let b : Record := ⟨"Post", 2, keys⟩
    (∃ records back, ending (catalog.related a "posts" db) = .ok records ∧
      ending (catalog.related b "author" db) = .ok back ∧ (b ∈ records ↔ back = [a]) ∧
        records = db.holders "Post" "authorId" 1 ∧
        records.Pairwise fun row row' => row.id < row'.id) ∧
    ∃ records back, ending (catalog.related a "favorites" db) = .ok records ∧
      ending (catalog.related b "fans" db) = .ok back ∧ (b ∈ records ↔ a ∈ back) ∧
        records = (db.holders "Favorite" "authorId" 1).filterMap (db.held? "Post" "postId") ∧
        (db.holders "Favorite" "authorId" 1).Pairwise fun join join' => join.id < join'.id := by
  intro author post catalog keys db a b
  have hr : db.Reachable :=
    ((Database.Reachable.start.insert _ _).insert _ _).insert _ _ |>.insert _ _
  have ha : a ∈ db.all "Author" := by decide +kernel
  have hb : b ∈ db.all "Post" := by decide +kernel
  obtain ⟨hmany, hjoined⟩ := @related_inverse Database _ catalog _ db hr "Author" "Post" a b ha hb
  exact ⟨hmany "posts" "author" "authorId" "posts" "author" (by decide +kernel)
      (by decide +kernel),
    hjoined "favorites" "fans" "Favorite" "authorId" "postId" "favorites" "fans" "" ""
      (by decide +kernel) (by decide +kernel)⟩

end Catalog

end Fixtures
