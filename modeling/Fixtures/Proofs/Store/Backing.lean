import Fixtures.Proofs.Outcome
import Fixtures.Store.Database
import Fixtures.Store.Journal

/-!
# Stores backed by a database

What is proved about blocks is proved for every store that keeps its records in a database and may
refuse a write whenever it likes: the database itself, which refuses nothing but what breaks a
constraint, and a journal in front of one, which refuses what is on its schedule.
-/

namespace Fixtures

/-- A store that keeps its records in a database.  A write that succeeds is the write of the
database, and one that fails, for whatever reason, changes nothing in the database. -/
class DatabaseBacked (σ : Type) [RecordStore σ] where
  database : σ → Database
  insert_ok {model : String} {attributes : AttributeMap} {store left : σ} {record : Record} :
    RecordStore.insert model attributes store = .ok record left →
      Database.insert model attributes (database store) = .ok record (database left)
  insert_error {model : String} {attributes : AttributeMap} {store left : σ} {error : StoreError} :
    RecordStore.insert model attributes store = .error error left →
      database left = database store
  replace_ok {record found : Record} {attributes : AttributeMap} {store left : σ} :
    RecordStore.replace record attributes store = .ok found left →
      Database.replace record attributes (database store) = .ok found (database left)
  replace_error {record : Record} {attributes : AttributeMap} {store left : σ}
      {error : StoreError} :
    RecordStore.replace record attributes store = .error error left →
      database left = database store
  select_eq (model field : String) (value : Value) (store : σ) :
    (RecordStore.select model field value store).1 = (database store).select model field value
  database_select (model field : String) (value : Value) (store : σ) :
    database (RecordStore.select model field value store).2 = database store

namespace Database

theorem insert_error {db left : Database} {model : String} {attributes : AttributeMap}
    {error : StoreError} (h : insert model attributes db = .error error left) : left = db := by
  unfold insert at h
  split at h <;> cases h
  rfl

theorem replace_error {db left : Database} {record : Record} {attributes : AttributeMap}
    {error : StoreError} (h : replace record attributes db = .error error left) : left = db := by
  unfold replace at h
  split at h
  · cases h
    rfl
  · dsimp only at h
    split at h <;> cases h
    rfl

instance : DatabaseBacked Database where
  database := id
  insert_ok h := h
  insert_error h := insert_error h
  replace_ok h := h
  replace_error h := replace_error h
  select_eq _ _ _ _ := rfl
  database_select _ _ _ _ := rfl

end Database

namespace Journal

variable {σ : Type}

theorem conclude_eq_ok {journal left : Journal σ} {call : Except StoreError Int → StoreCall}
    {result : EStateM.Result StoreError σ Record} {record : Record}
    (h : conclude journal call result = .ok record left) : result = .ok record left.store := by
  cases result <;> cases h
  rfl

theorem conclude_eq_error {journal left : Journal σ} {call : Except StoreError Int → StoreCall}
    {result : EStateM.Result StoreError σ Record} {error : StoreError}
    (h : conclude journal call result = .error error left) : result = .error error left.store := by
  cases result <;> cases h
  rfl

variable [RecordStore σ]

theorem insert_ok {journal left : Journal σ} {model : String} {attributes : AttributeMap}
    {record : Record} (h : insert model attributes journal = .ok record left) :
    RecordStore.insert model attributes journal.store = .ok record left.store := by
  have hc := conclude_eq_ok h
  split at hc
  · cases hc
  · exact hc

theorem replace_ok {journal left : Journal σ} {record found : Record} {attributes : AttributeMap}
    (h : replace record attributes journal = .ok found left) :
    RecordStore.replace record attributes journal.store = .ok found left.store := by
  have hc := conclude_eq_ok h
  split at hc
  · cases hc
  · exact hc

/-- A journal that fails has refused the insertion itself, or else its store has. -/
theorem insert_error {journal left : Journal σ} {model : String} {attributes : AttributeMap}
    {error : StoreError} (h : insert model attributes journal = .error error left) :
    left.store = journal.store ∨
      RecordStore.insert model attributes journal.store = .error error left.store := by
  -- The first case is a refusal on schedule, which does not reach the store.
  have hc := conclude_eq_error h
  split at hc
  · rw [EStateM.Result.error.injEq] at hc
    exact Or.inl hc.2.symm
  · exact Or.inr hc

theorem replace_error {journal left : Journal σ} {record : Record} {attributes : AttributeMap}
    {error : StoreError} (h : replace record attributes journal = .error error left) :
    left.store = journal.store ∨
      RecordStore.replace record attributes journal.store = .error error left.store := by
  have hc := conclude_eq_error h
  split at hc
  · rw [EStateM.Result.error.injEq] at hc
    exact Or.inl hc.2.symm
  · exact Or.inr hc

instance [DatabaseBacked σ] : DatabaseBacked (Journal σ) where
  database journal := DatabaseBacked.database journal.store
  insert_ok h := DatabaseBacked.insert_ok (insert_ok h)
  insert_error h := (insert_error h).elim (fun he => by rw [he]) DatabaseBacked.insert_error
  replace_ok h := DatabaseBacked.replace_ok (replace_ok h)
  replace_error h := (replace_error h).elim (fun he => by rw [he]) DatabaseBacked.replace_error
  select_eq model field value journal :=
    DatabaseBacked.select_eq model field value journal.store
  database_select model field value journal :=
    DatabaseBacked.database_select model field value journal.store

end Journal

end Fixtures
