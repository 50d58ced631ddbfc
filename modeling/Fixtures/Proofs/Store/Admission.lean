import Fixtures.Proofs.Store.Constraints
import Mathlib.Logic.Function.Basic

/-!
# What a database admits

A write is admitted exactly if its attributes fill the required fields of the model, are free of the
values that other rows have in its unique fields, and, where it replaces a row, if there is that
row.  What is admitted changes the rows of one model in one place and nothing else.  What is not
changes nothing, and the error says what was wrong, a blank field before a taken one and a missing
row last (`Database.Issued.admits`).
-/

namespace Fixtures

namespace Table

/-- Only a key that no row has leaves nothing to replace. -/
theorem replaceIn_eq_none_iff {id : Int} {attributes : AttributeMap} {rows : List Record} :
    replaceIn id attributes rows = none ↔ ∀ row ∈ rows, row.id ≠ id := by
  induction rows with
  | nil => simp [replaceIn]
  | cons row rows ih =>
    unfold replaceIn
    by_cases hid : row.id = id
    · simp [hid]
    · rw [if_neg hid, Option.map_eq_none_iff, ih]
      simp [hid]

/-- Rows by their keys: the one with the key of `record` gives way to it. -/
def putRow (record : Record) (rows : List Record) : List Record :=
  rows.map fun row => if row.id = record.id then record else row

/-- A row can be put in its place by its position or by its key. -/
theorem Numbered.set_eq_putRow {model : String} {table : Table} (h : table.Numbered model) {i : Nat}
    {old new : Record} (hi : table.rows[i]? = some old) (hid : new.id = old.id) :
    table.rows.set i new = putRow new table.rows := by
  have hold := h.ids i old hi
  unfold putRow
  apply List.ext_getElem?
  intro j
  rw [List.getElem?_map, List.getElem?_set]
  cases hj : table.rows[j]? with
  | none =>
    have hlen := List.getElem?_eq_none_iff.mp hj
    have hlt := (List.getElem?_eq_some_iff.mp hi).1
    rw [if_neg (by omega)]
    rfl
  | some row =>
    have hrow := h.ids j row hj
    have hlt := (List.getElem?_eq_some_iff.mp hj).1
    rw [Option.map_some, hid]
    by_cases hij : i = j
    · rw [if_pos hij, if_pos (hij ▸ hlt), if_pos (by omega)]
    · rw [if_neg hij, if_neg (by omega)]

end Table

namespace Database

variable {db left : Database} {model : String} {attributes : AttributeMap} {except : Option Int}
  {record found : Record} {error : StoreError}

/-! ## Checks -/

/-- The attributes have every required field of the model, and not as a null. -/
def Fills (db : Database) (model : String) (attributes : AttributeMap) : Prop :=
  ∀ field, (model, field) ∈ db.required →
    ∃ value, attributes.get? field = some value ∧ value.isNull = false

/-- No row of the model, the one with key `except` left out, has a value of the attributes in a
unique field. -/
def IsFree (db : Database) (model : String) (attributes : AttributeMap) (except : Option Int) :
    Prop :=
  ∀ field, (model, field) ∈ db.unique → ∀ row ∈ db.all model, some row.id ≠ except →
    ¬SortedMap.Share field row.attributes attributes

/-- What a database finds wrong with attributes.  Which field it is, of several that are wrong in
the same way, is left open. -/
inductive Objects (db : Database) (model : String) (attributes : AttributeMap)
    (except : Option Int) : StoreError → Prop
  | blank {field : String} (hf : (model, field) ∈ db.required)
      (hb : attributes.get? field = none ∨ attributes.get? field = some .null) :
      Objects db model attributes except (.blank model field)
  | taken {field : String} {row : Record} (hfills : db.Fills model attributes)
      (hf : (model, field) ∈ db.unique) (hr : row ∈ db.all model) (hid : some row.id ≠ except)
      (hs : SortedMap.Share field row.attributes attributes) :
      Objects db model attributes except (.taken model field)

theorem blankField?_eq_none_iff_fills :
    db.blankField? model attributes = none ↔ db.Fills model attributes := by
  rw [blankField?_eq_none_iff]
  unfold Fills
  simp only [mem_fieldsOf]

theorem takenField?_eq_none_iff_isFree :
    db.takenField? model attributes except = none ↔ db.IsFree model attributes except := by
  rw [takenField?_eq_none_iff]
  unfold IsFree
  simp only [mem_fieldsOf]

theorem violation?_eq_none_iff_admits :
    db.violation? model attributes except = none ↔
      db.Fills model attributes ∧ db.IsFree model attributes except := by
  rw [violation?_eq_none_iff, blankField?_eq_none_iff_fills, takenField?_eq_none_iff_isFree]

theorem blank_of_blankField? {field : String}
    (h : db.blankField? model attributes = some field) : (model, field) ∈ db.required ∧
      (attributes.get? field = none ∨ attributes.get? field = some .null) := by
  unfold blankField? at h
  refine ⟨mem_fieldsOf.mp (List.mem_of_find?_eq_some h), ?_⟩
  have hn := List.find?_some h
  cases hv : attributes.get? field with
  | none => exact Or.inl rfl
  | some value =>
    rw [hv, Option.getD_some] at hn
    cases value <;> simp [Value.isNull] at hn
    exact Or.inr rfl

theorem taken_of_takenField? {field : String}
    (h : db.takenField? model attributes except = some field) : (model, field) ∈ db.unique ∧
      ∃ row ∈ db.all model, some row.id ≠ except ∧
        SortedMap.Share field row.attributes attributes := by
  unfold takenField? at h
  refine ⟨mem_fieldsOf.mp (List.mem_of_find?_eq_some h), ?_⟩
  have ht := List.find?_some h
  rw [Option.any_eq_true] at ht
  obtain ⟨value', hv', ht⟩ := ht
  unfold Table.taken at ht
  rw [List.any_eq_true] at ht
  obtain ⟨row, hr, hrow⟩ := ht
  rw [Bool.and_eq_true, Option.any_eq_true] at hrow
  obtain ⟨hid, value, hv, hs⟩ := hrow
  exact ⟨row, hr, bne_iff_ne.mp hid, value, value', hv, hv', hs⟩

theorem objects_of_violation? (h : db.violation? model attributes except = some error) :
    db.Objects model attributes except error := by
  unfold violation? at h
  cases hb : db.blankField? model attributes with
  | some field =>
    rw [hb] at h
    cases h
    obtain ⟨hf, hblank⟩ := blank_of_blankField? hb
    exact .blank hf hblank
  | none =>
    rw [hb] at h
    obtain ⟨field, ht, rfl⟩ := Option.map_eq_some_iff.mp h
    obtain ⟨hf, row, hr, hid, hs⟩ := taken_of_takenField? ht
    exact .taken (blankField?_eq_none_iff_fills.mp hb) hf hr hid hs

/-! ## Insertions -/

theorem insert_isOk_iff :
    (∃ record left, insert model attributes db = .ok record left) ↔
      db.Fills model attributes ∧ db.IsFree model attributes none := by
  simp only [insert_eq_ok_iff, violation?_eq_none_iff_admits]
  constructor
  · rintro ⟨record, left, h, -⟩
    exact h
  · intro h
    exact ⟨_, _, h, rfl, rfl⟩

theorem objects_of_insert (h : insert model attributes db = .error error left) :
    db.Objects model attributes none error := by
  unfold insert at h
  cases hv : db.violation? model attributes none with
  | none =>
    rw [hv] at h
    cases h
  | some found =>
    rw [hv] at h
    cases h
    exact objects_of_violation? hv

/-! ## Replacements -/

/-- The database with a record in the place of the row that has its key. -/
def putRow (db : Database) (record : Record) : Database :=
  { db with
    tables := db.tables.insert record.model
      { (db.table record.model) with
        rows := Table.putRow record (db.table record.model).rows } }

theorem table_putRow (db : Database) (record : Record) (model : String) :
    (db.putRow record).table model =
      if model = record.model then
        { (db.table record.model) with
          rows := Table.putRow record (db.table record.model).rows }
      else db.table model :=
  table_with_insert ..

/-- There is a row to replace. -/
def Holds (db : Database) (record : Record) : Prop :=
  ∃ row ∈ db.all record.model, row.id = record.id

theorem Numbered.replace_eq_ok_iff (hn : db.Numbered) :
    Database.replace record attributes db = .ok found left ↔
      db.Fills record.model attributes ∧ db.IsFree record.model attributes (some record.id) ∧
        db.Holds record ∧ found = { record with attributes } ∧ left = db.putRow found := by
  constructor
  · intro h
    have hf := hn.replaced_eq h
    obtain ⟨hv, i, old, hi, hid, -, rfl⟩ := replace_eq_ok h
    obtain ⟨hfills, hfree⟩ := violation?_eq_none_iff_admits.mp hv
    refine ⟨hfills, hfree, ⟨old, List.mem_of_getElem? hi, hid⟩, hf, ?_⟩
    have hkey : found.id = old.id := by rw [hf, hid]
    rw [(hn record.model).set_eq_putRow hi hkey, hf]
    rfl
  · rintro ⟨hfills, hfree, ⟨row, hrow, hid⟩, rfl, rfl⟩
    have hv := violation?_eq_none_iff_admits.mpr ⟨hfills, hfree⟩
    cases hr : Table.replaceIn record.id attributes (db.table record.model).rows with
    | none => exact absurd hid (Table.replaceIn_eq_none_iff.mp hr row hrow)
    | some replaced =>
      -- The write goes through, so it does what the other direction says.
      have hok : Database.replace record attributes db = .ok replaced.1 { db with
          tables := db.tables.insert record.model
            { (db.table record.model) with rows := replaced.2 } } := by
        unfold Database.replace
        rw [hv]
        dsimp only
        rw [hr]
      have hf := hn.replaced_eq hok
      obtain ⟨-, i, old, hi, hold, -, hleft⟩ := replace_eq_ok hok
      have hkey : replaced.1.id = old.id := by rw [hf, hold]
      rw [hok, hleft, (hn record.model).set_eq_putRow hi hkey, hf]
      rfl

theorem replace_isOk_iff (hn : db.Numbered) :
    (∃ found left, replace record attributes db = .ok found left) ↔
      db.Fills record.model attributes ∧ db.IsFree record.model attributes (some record.id) ∧
        db.Holds record := by
  simp only [hn.replace_eq_ok_iff]
  constructor
  · rintro ⟨found, left, hfills, hfree, hh, -⟩
    exact ⟨hfills, hfree, hh⟩
  · rintro ⟨hfills, hfree, hh⟩
    exact ⟨_, _, hfills, hfree, hh, rfl, rfl⟩

/-- What a database finds wrong with a replacement: a missing row is told only of attributes that
are in order. -/
inductive ObjectsToReplacing (db : Database) (record : Record) (attributes : AttributeMap) :
    StoreError → Prop
  | attributes {error : StoreError}
      (h : db.Objects record.model attributes (some record.id) error) :
      ObjectsToReplacing db record attributes error
  | missing (hfills : db.Fills record.model attributes)
      (hfree : db.IsFree record.model attributes (some record.id)) (hm : ¬db.Holds record) :
      ObjectsToReplacing db record attributes (.notFound record.model record.id)

theorem objects_of_replace (h : replace record attributes db = .error error left) :
    db.ObjectsToReplacing record attributes error := by
  unfold replace at h
  cases hv : db.violation? record.model attributes (some record.id) with
  | some found =>
    rw [hv] at h
    cases h
    exact .attributes (objects_of_violation? hv)
  | none =>
    rw [hv] at h
    dsimp only at h
    cases hr : Table.replaceIn record.id attributes (db.table record.model).rows with
    | some replaced =>
      rw [hr] at h
      cases h
    | none =>
      rw [hr] at h
      cases h
      obtain ⟨hfills, hfree⟩ := violation?_eq_none_iff_admits.mp hv
      refine .missing hfills hfree ?_
      rintro ⟨row, hrow, hid⟩
      exact Table.replaceIn_eq_none_iff.mp hr row hrow hid

/-! ## Keys given out -/

/-- The last keys after a write: of each model the key that was given out for it last, if there was
one since the database was last cleared. -/
def issue (last : String → Option Int) (db : Database) : Write → String → Option Int
  | .insert model attributes =>
    match Database.insert model attributes db with
    | .ok record _ => Function.update last record.model (some record.id)
    | .error _ _ => last
  | .replace _ _ => last
  | .clear => fun _ => none

/-- The databases that can come up, each with the last keys. -/
inductive Issued : Database → (String → Option Int) → Prop
  | start : Issued {} fun _ => none
  | constrain {db : Database} {last : String → Option Int}
      (unique required : List (String × String)) (h : Issued db last) :
      Issued { db with unique, required } last
  | write {db : Database} {last : String → Option Int} (write : Write) (h : Issued db last) :
      Issued (db.perform write) (issue last db write)

variable {last : String → Option Int}

/-- The last keys are there for whatever database can come up. -/
theorem Reachable.issued (h : db.Reachable) : ∃ last, db.Issued last := by
  induction h with
  | start => exact ⟨_, .start⟩
  | constrain unique required _ ih =>
    obtain ⟨last, hi⟩ := ih
    exact ⟨last, hi.constrain unique required⟩
  | insert model attributes _ ih =>
    obtain ⟨last, hi⟩ := ih
    exact ⟨_, hi.write (.insert model attributes)⟩
  | replace record attributes _ ih =>
    obtain ⟨last, hi⟩ := ih
    exact ⟨_, hi.write (.replace record attributes)⟩
  | clear _ ih =>
    obtain ⟨last, hi⟩ := ih
    exact ⟨_, hi.write .clear⟩

theorem Issued.reachable (h : db.Issued last) : db.Reachable := by
  induction h with
  | start => exact .start
  | constrain unique required _ ih => exact ih.constrain unique required
  | write write _ ih =>
    cases write with
    | insert model attributes => exact ih.insert model attributes
    | replace record attributes => exact ih.replace record attributes
    | clear => exact ih.clear

theorem issue_of_ok (h : insert model attributes db = .ok record left) :
    issue last db (.insert model attributes) =
      Function.update last record.model (some record.id) := by
  simp only [issue, h]

theorem issue_of_error (h : insert model attributes db = .error error left) :
    issue last db (.insert model attributes) = last := by
  simp only [issue, h]

/-- A write moves the last key of a model and the count of its table together. -/
theorem lastId_perform (h : ((db.table model).lastId : Int) = (last model).getD 0) (write : Write) :
    (((db.perform write).table model).lastId : Int) = (issue last db write model).getD 0 := by
  cases write with
  | insert model' attributes =>
    show (((after (Database.insert model' attributes) db).table model).lastId : Int) = _
    cases hi : Database.insert model' attributes db with
    | error error left =>
      rw [after_of_error hi, insert_error hi, issue_of_error hi]
      exact h
    | ok record left =>
      rw [after_of_ok hi, issue_of_ok hi]
      obtain ⟨-, hrecord, rfl⟩ := insert_eq_ok_iff.mp hi
      have hm : record.model = model' := by rw [hrecord]
      rw [table_with_insert, hm]
      by_cases he : model = model'
      · rw [if_pos he, he, Function.update_self, hrecord]
        rfl
      · rw [if_neg he, Function.update_of_ne he]
        exact h
  | replace record attributes =>
    show (((after (Database.replace record attributes) db).table model).lastId : Int) =
      (last model).getD 0
    cases hr : Database.replace record attributes db with
    | error error left =>
      rw [after_of_error hr, replace_error hr]
      exact h
    | ok found left =>
      rw [after_of_ok hr]
      obtain ⟨-, i, old, -, -, -, rfl⟩ := replace_eq_ok hr
      rw [table_with_insert]
      split
      · rename_i he
        rw [← he]
        exact h
      · exact h
  | clear => rfl

theorem Issued.lastId (h : db.Issued last) (model : String) :
    ((db.table model).lastId : Int) = (last model).getD 0 := by
  induction h with
  | start => rfl
  | constrain _ _ _ ih => exact ih
  | write write _ ih => exact lastId_perform ih write

/-- The last keys after a sequence of writes. -/
def issueAll (last : String → Option Int) (db : Database) : List Write → String → Option Int
  | [] => last
  | write :: rest => issueAll (issue last db write) (db.perform write) rest

theorem Issued.performAll (h : db.Issued last) (writes : List Write) :
    (db.performAll writes).Issued (issueAll last db writes) := by
  induction writes generalizing db last with
  | nil => exact h
  | cons write rest ih => exact ih (h.write write)

/-! ## What writes do -/

/-- A record is appended to the rows of a model, with the key after the last one, and nothing else
changes. -/
structure Appends (db : Database) (last : Option Int) (model : String) (attributes : AttributeMap)
    (record : Record) (left : Database) : Prop where
  record_eq : record = { model, id := match last with | none => 1 | some id => id + 1, attributes }
  rows : left.all model = db.all model ++ [record]
  others : ∀ other, other ≠ model → left.table other = db.table other
  unique : left.unique = db.unique
  required : left.required = db.required

/-- The row with the key of a record gets other attributes, and nothing else changes. -/
structure Replaces (db : Database) (record : Record) (attributes : AttributeMap) (found : Record)
    (left : Database) : Prop where
  found_eq : found = { record with attributes }
  rows : left.all record.model = (db.all record.model).map fun row =>
    if row.id = record.id then { row with attributes } else row
  lastId : (left.table record.model).lastId = (db.table record.model).lastId
  others : ∀ other, other ≠ record.model → left.table other = db.table other
  unique : left.unique = db.unique
  required : left.required = db.required

theorem Issued.appends (hi : db.Issued last) (h : insert model attributes db = .ok record left) :
    db.Appends (last model) model attributes record left := by
  have hlast := hi.lastId model
  obtain ⟨-, hrecord, rfl⟩ := insert_eq_ok_iff.mp h
  refine ⟨?_, ?_, fun other hne => ?_, rfl, rfl⟩
  · rw [hrecord, hlast]
    cases last model <;> rfl
  · unfold all
    rw [table_with_insert, if_pos rfl]
  · rw [table_with_insert, if_neg hne]

theorem Numbered.replaces (hn : db.Numbered)
    (h : Database.replace record attributes db = .ok found left) :
    db.Replaces record attributes found left := by
  obtain ⟨-, -, -, rfl, rfl⟩ := hn.replace_eq_ok_iff.mp h
  refine ⟨rfl, ?_, ?_, fun other hne => ?_, rfl, rfl⟩
  · unfold all
    rw [table_putRow, if_pos rfl]
    apply List.map_congr_left
    intro row hrow
    have hm := (hn record.model).models row hrow
    split
    · rename_i hid
      -- The record stands for the row that it has the model and the key of.
      rw [show record.model = row.model from hm.symm, show record.id = row.id from hid.symm]
    · rfl
  · rw [table_putRow, if_pos rfl]
  · rw [table_putRow, if_neg hne]

/-- A write succeeds exactly if the database admits it.  It does then what it is meant to, and it
changes nothing at all if it fails. -/
theorem Issued.admits (h : db.Issued last) :
    (∀ model attributes,
      ((∃ record left, insert model attributes db = .ok record left) ↔
        db.Fills model attributes ∧ db.IsFree model attributes none) ∧
      Ends (insert model attributes db)
        (fun record left => db.Appends (last model) model attributes record left)
        (fun error left => left = db ∧ db.Objects model attributes none error)) ∧
    ∀ record attributes,
      ((∃ found left, replace record attributes db = .ok found left) ↔
        db.Fills record.model attributes ∧ db.IsFree record.model attributes (some record.id) ∧
          db.Holds record) ∧
      Ends (replace record attributes db)
        (fun found left => db.Replaces record attributes found left)
        (fun error left => left = db ∧ db.ObjectsToReplacing record attributes error) := by
  have hn := h.reachable.numbered
  refine ⟨fun model attributes => ⟨insert_isOk_iff, ?_⟩,
    fun record attributes => ⟨replace_isOk_iff hn, ?_⟩⟩
  · cases hi : insert model attributes db with
    | ok record left => exact h.appends hi
    | error error left => exact ⟨insert_error hi, objects_of_insert hi⟩
  · cases hr : replace record attributes db with
    | ok found left => exact hn.replaces hr
    | error error left => exact ⟨replace_error hr, objects_of_replace hr⟩

/-- Keys start again after clearing, a refused record takes none, and the value of another row is
refused before a row is missed. -/
theorem Issued.admits_of_cleared :
    let email := fun text : String => (∅ : AttributeMap).insert "email" (.text text)
    let writes : List Write :=
      [.insert "User" (email "a"), .insert "User" (email "b"), .clear, .insert "User" (email "a"),
        .insert "User" (email "a"), .insert "User" ∅]
    let db := Database.performAll
      { unique := [("User", "email")], required := [("User", "email")] } writes
    ∃ last, db.Issued last ∧
      Ends (insert "User" (email "b") db)
        (fun record left => db.Appends (some 1) "User" (email "b") record left)
        (fun _ _ => False) ∧
      Ends (replace ⟨"User", 7, ∅⟩ (email "a") db) (fun _ _ => False)
        fun error left => left = db ∧ db.ObjectsToReplacing ⟨"User", 7, ∅⟩ (email "a") error ∧
          error = .taken "User" "email" := by
  intro email writes db
  have hissued : db.Issued
      (issueAll (fun _ => none) { unique := [("User", "email")], required := [("User", "email")] }
        writes) :=
    (Issued.start.constrain [("User", "email")] [("User", "email")]).performAll writes
  have hlast : issueAll (fun _ => none)
      { unique := [("User", "email")], required := [("User", "email")] } writes "User" =
        some 1 := by
    decide +kernel
  have hends : Ends (insert "User" (email "b") db) (fun _ _ => True) (fun _ _ => False) ∧
      Ends (replace ⟨"User", 7, ∅⟩ (email "a") db) (fun _ _ => False)
        fun error _ => error = .taken "User" "email" :=
    ⟨by decide +kernel, by decide +kernel⟩
  -- From here on it does not matter how the database came about.
  clear_value db
  obtain ⟨hok, hrefused⟩ := hends
  obtain ⟨hinsert, hreplace⟩ := hissued.admits
  refine ⟨_, hissued, ?_, ?_⟩
  · rw [← hlast]
    exact ((hinsert "User" (email "b")).2.and hok).mono (fun _ _ h => h.1) fun _ _ h => h.2
  · exact ((hreplace ⟨"User", 7, ∅⟩ (email "a")).2.and hrefused).mono (fun _ _ h => h.2)
      fun _ _ h => ⟨h.1.1, h.1.2, h.2⟩

end Database

end Fixtures
