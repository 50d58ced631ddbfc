import Fixtures.Proofs.Outcome
import Fixtures.Store.Journal

/-!
# Insertions in a journal

The rows that a journal saw inserted, in their order.  An insertion that succeeds adds one, and a
replacement none.
-/

namespace Fixtures

/-- Model and attributes of the row that a call inserted. -/
def StoreCall.inserted? : StoreCall → Option (String × AttributeMap)
  | .insert model attributes (.ok _) => some (model, attributes)
  | .insert _ _ (.error _) | .replace .. | .select .. => none

/-- The store after one replacement at most. -/
def Rewritten {σ : Type} [RecordStore σ] (store left : σ) : Prop :=
  left = store ∨ ∃ record attributes, left = after (RecordStore.replace record attributes) store

namespace Journal

variable {σ : Type}

/-- The rows inserted so far, the first one first. -/
def insertions (journal : Journal σ) : List (String × AttributeMap) :=
  journal.calls.filterMap StoreCall.inserted?

theorem insertions_note (journal : Journal σ) (call : StoreCall) :
    (journal.note call).insertions = journal.insertions ++ call.inserted?.toList := by
  unfold insertions note
  rw [List.filterMap_append]
  cases h : call.inserted? with
  | none => rw [List.filterMap_cons_none h]; rfl
  | some row => rw [List.filterMap_cons_some h]; rfl

variable [RecordStore σ] {journal left : Journal σ}

theorem insertions_of_insert {model : String} {attributes : AttributeMap} {record : Record}
    (h : RecordStore.insert model attributes journal = .ok record left) :
    left.insertions = journal.insertions ++ [(model, attributes)] := by
  change conclude _ _ _ = _ at h
  unfold conclude at h
  split at h
  · cases h
    rw [insertions_note]
    rfl
  · cases h

/-- A replacement is one more call, whatever comes of it. -/
theorem calls_replace (record : Record) (attributes : AttributeMap) (journal : Journal σ) :
    ∃ outcome, (after (RecordStore.replace record attributes) journal).calls =
      journal.calls ++ [.replace record.model record.id attributes outcome] := by
  cases hr : RecordStore.replace record attributes journal with
  | ok found left =>
    rw [after_of_ok hr]
    change conclude _ _ _ = _ at hr
    unfold conclude at hr
    split at hr <;> cases hr
    exact ⟨_, rfl⟩
  | error error left =>
    rw [after_of_error hr]
    change conclude _ _ _ = _ at hr
    unfold conclude at hr
    split at hr <;> cases hr
    exact ⟨_, rfl⟩

theorem insertions_of_rewritten (h : Rewritten journal left) :
    left.insertions = journal.insertions := by
  rcases h with rfl | ⟨record, attributes, rfl⟩
  · rfl
  · -- The call is noted, and counts for nothing among the insertions.
    obtain ⟨outcome, hc⟩ := calls_replace record attributes journal
    unfold insertions
    rw [hc, List.filterMap_append]
    exact List.append_nil _

end Journal

end Fixtures
