import Fixtures.Store.Record

/-!
# Record stores

What the library asks of a place that keeps records: inserting, replacing and selecting. A store is
a value, and every operation answers together with the store that it leaves, a failed one too, so
that a caught failure keeps whatever the store did before it gave up.
-/

namespace Fixtures

/-- Why a store refused to write. -/
inductive StoreError where
  -- A required field is missing or null.
  | blank (model field : String)
  -- Another record has the value of a unique field.
  | taken (model field : String)
  -- There is no record to replace.
  | notFound (model : String) (id : Int)
  -- The store itself failed.
  | backend (text : String)
  deriving DecidableEq

def StoreError.message : StoreError → String
  | .blank model field => s!"Validation failed for {model}: {field} can't be blank"
  | .taken model field => s!"Validation failed for {model}: {field} has already been taken"
  | .notFound model id => s!"Record not found: {model}#{id}"
  | .backend text => s!"Backend error: {text}"

/-- A place that keeps records. -/
class RecordStore (σ : Type) where
  -- Creates a record of a model and answers it with its new key.
  insert (model : String) (attributes : AttributeMap) : EStateM StoreError σ Record
  -- Replaces the fields of the stored record with this model and key, and answers it.
  replace (record : Record) (attributes : AttributeMap) : EStateM StoreError σ Record
  -- All records of a model whose field has a value, with the store left by looking.
  select (model field : String) (value : Value) (store : σ) : List Record × σ

namespace RecordStore

/-- The first record of a model whose field has a value, with the store left by looking. -/
def selectFirst {σ : Type} [RecordStore σ] (model field : String) (value : Value) (store : σ) :
    Option Record × σ :=
  let (found, store) := select model field value store
  (found.head?, store)

end RecordStore

end Fixtures
