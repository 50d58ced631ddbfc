import Fixtures.Proofs.Store.Numbering

/-!
# Constraints of a database

A write is checked against the constraints before it happens, and a replacement leaves out of the
check whatever row has the key that it was given.  Since keys are never repeated, that is the
row that it replaces and no other, so the rows meet the constraints after any sequence of writes
(`Database.performAll_lawful`).
-/

namespace Fixtures

/-- Two attribute maps have the same value in a field. -/
def SortedMap.Share (field : String) (attributes attributes' : AttributeMap) : Prop :=
  ∃ value value', attributes.get? field = some value ∧ attributes'.get? field = some value' ∧
    value.same value'

theorem SortedMap.Share.symm {field : String} {attributes attributes' : AttributeMap}
    (h : SortedMap.Share field attributes attributes') :
    SortedMap.Share field attributes' attributes := by
  obtain ⟨value, value', hv, hv', hs⟩ := h
  exact ⟨value', value, hv', hv, by rwa [Value.same_comm]⟩

/-! ## Rows under constraints -/

namespace Table

/-- The rows have a value in every required field, and no two of them the same one in a unique
field. -/
structure Constrained (unique required : List String) (rows : List Record) : Prop where
  filled : ∀ field ∈ required, ∀ row ∈ rows,
    ∃ value, row.attributes.get? field = some value ∧ value.isNull = false
  apart : ∀ field ∈ unique, ∀ (i j : Nat) (row row' : Record), i ≠ j → rows[i]? = some row →
    rows[j]? = some row' → ¬SortedMap.Share field row.attributes row'.attributes

/-- New attributes have a value in every required field, and none in a unique field that a row
other than the one at `position` has. -/
structure Admits (unique required : List String) (rows : List Record) (position : Nat)
    (attributes : AttributeMap) : Prop where
  filled : ∀ field ∈ required,
    ∃ value, attributes.get? field = some value ∧ value.isNull = false
  apart : ∀ field ∈ unique, ∀ (i : Nat) (row : Record), i ≠ position → rows[i]? = some row →
    ¬SortedMap.Share field row.attributes attributes

variable {unique required : List String} {rows rows' : List Record} {position : Nat}

theorem Constrained.empty (unique required : List String) : Constrained unique required [] :=
  ⟨fun _ _ _ h => by simp at h, fun _ _ _ _ _ _ _ h => by simp at h⟩

/-- A row that is admitted can stand at its position, whether it is new there or not. -/
theorem Constrained.put (h : Constrained unique required rows) {new : Record}
    (ha : Admits unique required rows position new.attributes)
    (hr : ∀ (i : Nat) row, rows'[i]? = some row →
      i = position ∧ row = new ∨ i ≠ position ∧ rows[i]? = some row) :
    Constrained unique required rows' := by
  refine ⟨fun field hf row hrow => ?_, fun field hf i j row row' hij hi hj => ?_⟩
  · obtain ⟨i, hi⟩ := List.mem_iff_getElem?.mp hrow
    rcases hr i row hi with ⟨-, rfl⟩ | ⟨-, hi⟩
    · exact ha.filled field hf
    · exact h.filled field hf row (List.mem_of_getElem? hi)
  · rcases hr i row hi with ⟨hi, rfl⟩ | ⟨hip, hi⟩
    · rcases hr j row' hj with ⟨hj, -⟩ | ⟨hjp, hj⟩
      · omega
      · exact fun hs => ha.apart field hf j row' hjp hj hs.symm
    · rcases hr j row' hj with ⟨-, rfl⟩ | ⟨-, hj⟩
      · exact ha.apart field hf i row hip hi
      · exact h.apart field hf i j row row' hij hi hj

theorem Constrained.push (h : Constrained unique required rows) {new : Record}
    (ha : Admits unique required rows rows.length new.attributes) :
    Constrained unique required (rows ++ [new]) := by
  apply h.put ha
  intro i row hi
  by_cases hlt : i < rows.length
  · rw [List.getElem?_append_left hlt] at hi
    exact Or.inr ⟨by omega, hi⟩
  · rw [List.getElem?_append_right (by omega), List.getElem?_singleton] at hi
    split at hi
    · exact Or.inl ⟨by omega, (Option.some.inj hi).symm⟩
    · cases hi

theorem Constrained.set (h : Constrained unique required rows) {new : Record}
    (ha : Admits unique required rows position new.attributes) :
    Constrained unique required (rows.set position new) := by
  apply h.put ha
  intro i row hi
  by_cases he : i = position
  · rw [he, List.getElem?_set] at hi
    split at hi
    · split at hi
      · exact Or.inl ⟨he, (Option.some.inj hi).symm⟩
      · cases hi
    · omega
  · rw [List.getElem?_set_ne (Ne.symm he)] at hi
    exact Or.inr ⟨he, hi⟩

end Table

namespace Database

variable {db db' : Database} {model : String} {attributes : AttributeMap} {except : Option Int}
  {record found : Record}

theorem mem_fieldsOf {field : String} {constraints : List (String × String)} :
    field ∈ fieldsOf model constraints ↔ (model, field) ∈ constraints := by
  unfold fieldsOf
  simp only [List.mem_map, List.mem_filter, beq_iff_eq]
  constructor
  · rintro ⟨⟨model', field'⟩, ⟨hm, rfl⟩, rfl⟩
    exact hm
  · intro hm
    exact ⟨(model, field), ⟨hm, rfl⟩, rfl⟩

/-! ## What a check lets through -/

theorem blankField?_eq_none_iff :
    db.blankField? model attributes = none ↔ ∀ field ∈ fieldsOf model db.required,
      ∃ value, attributes.get? field = some value ∧ value.isNull = false := by
  unfold blankField?
  rw [List.find?_eq_none]
  apply forall₂_congr
  intro field _
  cases attributes.get? field with
  | none => simp [Value.isNull]
  | some value => simp

theorem takenField?_eq_none_iff :
    db.takenField? model attributes except = none ↔
      ∀ field ∈ fieldsOf model db.unique, ∀ row ∈ db.all model, some row.id ≠ except →
        ¬SortedMap.Share field row.attributes attributes := by
  unfold takenField?
  rw [List.find?_eq_none]
  apply forall₂_congr
  intro field _
  rw [Option.any_eq_true]
  constructor
  · rintro hn row hr hid ⟨value, value', hv, hv', hs⟩
    -- This very row would have been found to have the value.
    apply hn
    refine ⟨value', hv', ?_⟩
    unfold Table.taken
    rw [List.any_eq_true]
    refine ⟨row, hr, ?_⟩
    rw [hv, Option.any_some, hs, Bool.and_true]
    exact bne_iff_ne.mpr hid
  · rintro hn ⟨value', hv', ht⟩
    unfold Table.taken at ht
    rw [List.any_eq_true] at ht
    obtain ⟨row, hr, hrow⟩ := ht
    rw [Bool.and_eq_true, Option.any_eq_true] at hrow
    obtain ⟨hid, value, hv, hs⟩ := hrow
    exact hn row hr (bne_iff_ne.mp hid) ⟨value, value', hv, hv', hs⟩

theorem violation?_eq_none_iff :
    db.violation? model attributes except = none ↔
      db.blankField? model attributes = none ∧ db.takenField? model attributes except = none := by
  unfold violation?
  cases db.blankField? model attributes with
  | some field => simp
  | none => simp

/-- What passes the check is admitted at the position of the row with the key that was left out, or
at the end if none was. -/
theorem admits_of_violation?_eq_none {position : Nat}
    (h : db.violation? model attributes except = none)
    (hk : ∀ (i : Nat) row, i ≠ position → (db.all model)[i]? = some row → some row.id ≠ except) :
    Table.Admits (fieldsOf model db.unique) (fieldsOf model db.required) (db.all model) position
      attributes := by
  obtain ⟨hb, ht⟩ := violation?_eq_none_iff.mp h
  refine ⟨blankField?_eq_none_iff.mp hb, fun field hf i row hi hrow => ?_⟩
  exact takenField?_eq_none_iff.mp ht field hf row (List.mem_of_getElem? hrow) (hk i row hi hrow)

/-! ## Sequences of writes -/

/-- The constraints hold in every table. -/
def Constrained (db : Database) : Prop :=
  ∀ model, Table.Constrained (fieldsOf model db.unique) (fieldsOf model db.required) (db.all model)

theorem Constrained.insert (hc : db.Constrained)
    (h : Database.insert model attributes db = .ok record db') : db'.Constrained := by
  obtain ⟨hv, hr, rfl⟩ := insert_eq_ok_iff.mp h
  intro model'
  unfold all
  rw [table_with_insert]
  split
  · rename_i he
    rw [he]
    apply (hc model).push
    rw [hr]
    exact admits_of_violation?_eq_none hv fun i row _ _ => Option.some_ne_none _
  · exact hc model'

theorem Constrained.replace (hc : db.Constrained) (hn : db.Numbered)
    (h : Database.replace record attributes db = .ok found db') : db'.Constrained := by
  obtain ⟨hv, position, old, hi, hid, hf, rfl⟩ := replace_eq_ok h
  intro model'
  unfold all
  rw [table_with_insert]
  split
  · rename_i he
    rw [he]
    apply (hc record.model).set
    rw [hf]
    apply admits_of_violation?_eq_none hv
    -- Only the row that is replaced has the key, as every row has that of its own place.
    intro i row hne hrow hk
    have hrowid := (hn record.model).ids i row hrow
    have holdid := (hn record.model).ids position old hi
    rw [Option.some.injEq, ← hid] at hk
    omega
  · exact hc model'

/-- Something to do to a database, which the database may refuse. -/
inductive Write where
  | insert (model : String) (attributes : AttributeMap)
  | replace (record : Record) (attributes : AttributeMap)
  | clear

/-- The database after a write, which is the one before if it refuses. -/
def perform (db : Database) : Write → Database
  | .insert model attributes => after (Database.insert model attributes) db
  | .replace record attributes => after (Database.replace record attributes) db
  | .clear => db.clear

def performAll (db : Database) (writes : List Write) : Database := writes.foldl perform db

/-- What every write keeps, with the constraints that were set in the beginning. -/
structure Kept (unique required : List (String × String)) (db : Database) : Prop where
  unique_eq : db.unique = unique
  required_eq : db.required = required
  numbered : db.Numbered
  constrained : db.Constrained

theorem Kept.perform {unique required : List (String × String)} (h : Kept unique required db)
    (write : Write) : Kept unique required (db.perform write) := by
  cases write with
  | insert model attributes =>
    show Kept unique required (after _ db)
    cases hi : Database.insert model attributes db with
    | ok record left =>
      rw [after_of_ok hi]
      obtain ⟨-, -, he⟩ := insert_eq_ok_iff.mp hi
      exact ⟨by rw [he, h.unique_eq], by rw [he, h.required_eq], h.numbered.insert hi,
        h.constrained.insert hi⟩
    | error error left =>
      rw [after_of_error hi, insert_error hi]
      exact h
  | replace record attributes =>
    show Kept unique required (after _ db)
    cases hr : Database.replace record attributes db with
    | ok found left =>
      rw [after_of_ok hr]
      obtain ⟨-, position, old, -, -, -, he⟩ := replace_eq_ok hr
      exact ⟨by rw [he, h.unique_eq], by rw [he, h.required_eq], h.numbered.replace hr,
        h.constrained.replace h.numbered hr⟩
    | error error left =>
      rw [after_of_error hr, replace_error hr]
      exact h
  | clear =>
    exact ⟨h.unique_eq, h.required_eq, fun model => Table.Numbered.empty model,
      fun model => Table.Constrained.empty _ _⟩

theorem performAll_kept (unique required : List (String × String)) (writes : List Write) :
    Kept unique required (performAll { unique, required } writes) := by
  have h : Kept unique required { unique, required } :=
    ⟨rfl, rfl, fun model => Table.Numbered.empty model, fun model => Table.Constrained.empty _ _⟩
  unfold performAll
  generalize ({ unique, required } : Database) = db at h
  induction writes generalizing db with
  | nil => exact h
  | cons write rest ih => exact ih (db.perform write) (h.perform write)

/-- What holds of a database under constraints. -/
structure Lawful (unique required : List (String × String)) (db : Database) : Prop where
  ids : ∀ model, (db.all model).map (·.id) =
    (List.range (db.count model)).map fun (i : Nat) => (i : Int) + 1
  models : ∀ model, ∀ row ∈ db.all model, row.model = model
  filled : ∀ model field, (model, field) ∈ required → ∀ row ∈ db.all model,
    ∃ value, row.attributes.get? field = some value ∧ value.isNull = false
  apart : ∀ model field, (model, field) ∈ unique → ∀ (i j : Nat) (row row' : Record), i ≠ j →
    (db.all model)[i]? = some row → (db.all model)[j]? = some row' →
      ¬SortedMap.Share field row.attributes row'.attributes

/-- Keys, models and constraints are in order after any sequence of writes, whichever of them were
refused. -/
theorem performAll_lawful (unique required : List (String × String)) (writes : List Write) :
    (performAll { unique, required } writes).Lawful unique required := by
  have h := performAll_kept unique required writes
  generalize performAll { unique, required } writes = db at h ⊢
  obtain ⟨rfl, rfl, hn, hc⟩ := h
  refine ⟨fun model => ?_, fun model => (hn model).models, fun model field hf => ?_,
    fun model field hf => ?_⟩
  · apply List.ext_getElem
    · rw [List.length_map, List.length_map, List.length_range]
      rfl
    · intro i hi _
      rw [List.length_map] at hi
      rw [List.getElem_map, List.getElem_map, List.getElem_range]
      exact (hn model).ids i _ (List.getElem?_eq_getElem hi)
  · exact (hc model).filled field (mem_fieldsOf.mpr hf)
  · exact (hc model).apart field (mem_fieldsOf.mpr hf)

end Database

end Fixtures
