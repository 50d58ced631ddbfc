import Fixtures.Store

/-!
# Journals

A journal stands in front of a store. It writes down every call with its outcome, and refuses the
insertions and replacements whose numbers are on a schedule, counting each sort of call from zero.
A refused call does not reach the store.
-/

namespace Fixtures

/-- A call to a store with its outcome: the key of the record written, or the number found. -/
inductive StoreCall where
  | insert (model : String) (attributes : AttributeMap) (outcome : Except StoreError Int)
  | replace (model : String) (id : Int) (attributes : AttributeMap)
    (outcome : Except StoreError Int)
  | select (model field : String) (value : Value) (found : Nat)

/-- A store behind a journal. -/
structure Journal (σ : Type) where
  store : σ
  -- The numbers of the insertions to refuse.
  refusedInserts : List Nat := []
  -- The numbers of the replacements to refuse.
  refusedReplaces : List Nat := []
  inserts : Nat := 0
  replaces : Nat := 0
  -- The calls so far, the first one first.
  calls : List StoreCall := []

namespace Journal

variable {σ : Type}

def note (journal : Journal σ) (call : StoreCall) : Journal σ :=
  { journal with calls := journal.calls ++ [call] }

/-- The outcome of a write as it is written down, and its result in terms of the journal. -/
def conclude (journal : Journal σ) (call : Except StoreError Int → StoreCall) :
    EStateM.Result StoreError σ Record → EStateM.Result StoreError (Journal σ) Record
  | .ok record store => .ok record ({ journal with store }.note (call (.ok record.id)))
  | .error error store => .error error ({ journal with store }.note (call (.error error)))

def insert [RecordStore σ] (model : String) (attributes : AttributeMap) :
    EStateM StoreError (Journal σ) Record := fun journal =>
  let number := journal.inserts
  conclude { journal with inserts := number + 1 } (.insert model attributes)
    (if number ∈ journal.refusedInserts then .error (.backend s!"persist {number}") journal.store
    else RecordStore.insert model attributes journal.store)

def replace [RecordStore σ] (record : Record) (attributes : AttributeMap) :
    EStateM StoreError (Journal σ) Record := fun journal =>
  let number := journal.replaces
  conclude { journal with replaces := number + 1 } (.replace record.model record.id attributes)
    (if number ∈ journal.refusedReplaces then .error (.backend s!"update {number}") journal.store
    else RecordStore.replace record attributes journal.store)

def select [RecordStore σ] (model field : String) (value : Value) (journal : Journal σ) :
    List Record × Journal σ :=
  let (found, store) := RecordStore.select model field value journal.store
  (found, { journal with store }.note (.select model field value found.length))

instance [RecordStore σ] : RecordStore (Journal σ) where
  insert := insert
  replace := replace
  select := select

end Journal

end Fixtures
