import Fixtures.Store

/-!
# Databases in memory

A database keeps a table of records for each model, numbers the records of a table from one, and
holds writers to two sorts of constraints: a required field must be there and not be null, and no
two records of a model may have the same value in a unique field. A write that breaks a constraint
changes nothing.
-/

namespace Fixtures

/-- The records of one model in the order of their insertion, and the last key given out. -/
structure Table where
  lastId : Nat := 0
  rows : List Record := []
  deriving DecidableEq

/-- Tables by model, with the constraints on writing. -/
structure Database where
  tables : SortedMap Table := ∅
  -- Models with a field in which no two records may agree.
  unique : List (String × String) := []
  -- Models with a field that every record must have.
  required : List (String × String) := []
  deriving DecidableEq

namespace Table

/-- Whether another row than the one with key `except` has `value` in the field. -/
def taken (table : Table) (field : String) (value : Value) (except : Option Int) : Bool :=
  table.rows.any fun row =>
    some row.id != except && ((row.attributes.get? field).any (·.same value))

/-- Puts new attributes into the first row with this key, and answers that row. -/
def replaceIn (id : Int) (attributes : AttributeMap) : List Record → Option (Record × List Record)
  | [] => none
  | row :: rows =>
    if row.id = id then
      let row := { row with attributes }
      some (row, row :: rows)
    else (replaceIn id attributes rows).map fun (found, rows) => (found, row :: rows)

end Table

namespace Database

/-- The table of a model; one that was never written to is empty. -/
def table (db : Database) (model : String) : Table := (db.tables.get? model).getD {}

/-- The fields that a list of constraints names for a model. -/
def fieldsOf (model : String) (constraints : List (String × String)) : List String :=
  (constraints.filter (·.1 == model)).map (·.2)

/-- The first required field that the attributes leave blank. -/
def blankField? (db : Database) (model : String) (attributes : AttributeMap) : Option String :=
  (fieldsOf model db.required).find? fun field =>
    ((attributes.get? field).getD .null).isNull

/-- The first unique field whose value another row has, the row with key `except` left out. -/
def takenField? (db : Database) (model : String) (attributes : AttributeMap)
    (except : Option Int) : Option String :=
  (fieldsOf model db.unique).find? fun field =>
    (attributes.get? field).any fun value => (db.table model).taken field value except

/-- The constraint that the attributes of a record would break. -/
def violation? (db : Database) (model : String) (attributes : AttributeMap)
    (except : Option Int) : Option StoreError :=
  match db.blankField? model attributes with
  | some field => some (.blank model field)
  | none => (db.takenField? model attributes except).map (.taken model ·)

/-- Appends a record with the next key of its model. -/
def insert (model : String) (attributes : AttributeMap) : EStateM StoreError Database Record :=
  fun db =>
    match db.violation? model attributes none with
    | some error => .error error db
    | none =>
      let table := db.table model
      let record : Record := { model, id := table.lastId + 1, attributes }
      .ok record { db with
        tables := db.tables.insert model
          { lastId := table.lastId + 1, rows := table.rows ++ [record] } }

/-- Replaces the attributes of the row with the record's model and key. -/
def replace (record : Record) (attributes : AttributeMap) : EStateM StoreError Database Record :=
  fun db =>
    match db.violation? record.model attributes (some record.id) with
    | some error => .error error db
    | none =>
      let table := db.table record.model
      match Table.replaceIn record.id attributes table.rows with
      | none => .error (.notFound record.model record.id) db
      | some (row, rows) =>
        .ok row { db with tables := db.tables.insert record.model { table with rows } }

def all (db : Database) (model : String) : List Record := (db.table model).rows

def count (db : Database) (model : String) : Nat := (db.all model).length

def find? (db : Database) (model : String) (id : Int) : Option Record :=
  (db.all model).find? (·.id == id)

def select (db : Database) (model field : String) (value : Value) : List Record :=
  (db.all model).filter fun row => (row.field? field).any (·.same value)

/-- Removes every record; keys start again from one. -/
def clear (db : Database) : Database := { db with tables := ∅ }

instance : RecordStore Database where
  insert := insert
  replace := replace
  select model field value db := (db.select model field value, db)

end Database

end Fixtures
