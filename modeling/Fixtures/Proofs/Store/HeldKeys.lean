import Fixtures.Proofs.Store.Inverse
import Fixtures.Proofs.Store.Replacing
import Mathlib.Data.List.Pairwise

/-!
# Keys that one row holds

A field is held once if no two rows of the model hold the same key in it.  An association that finds
the first holder of a key then finds them all (`Database.HeldOnce.head?_holders`).
-/

namespace Fixtures

namespace Record

/-- The key in a field of the record. -/
def heldKey? (record : Record) (field : String) : Option Int :=
  match record.field? field with
  | some (.int id) => some id
  | _ => none

theorem field?_id (record : Record) : record.field? "id" = some (.int record.id) := rfl

theorem heldKey?_eq_some_iff {record : Record} {field : String} {id : Int} :
    record.heldKey? field = some id ↔ record.field? field = some (.int id) := by
  unfold heldKey?
  split
  · rename_i found hf
    rw [hf, Option.some.injEq, Option.some.injEq, Value.int.injEq]
  · rename_i hne
    exact ⟨nofun, fun h => (hne id h).elim⟩

end Record

namespace Database

variable {db : Database} {model field : String} {row row' : Record} {id : Int}

/-- No two rows of the model hold the same key in the field. -/
def HeldOnce (db : Database) (model field : String) : Prop :=
  ((db.all model).filterMap (·.heldKey? field)).Nodup

instance (db : Database) (model field : String) : Decidable (db.HeldOnce model field) :=
  inferInstanceAs (Decidable (List.Nodup _))

/-- Rows that hold the same key are the same. -/
theorem Numbered.heldOnce_iff (hn : db.Numbered) :
    db.HeldOnce model field ↔ ∀ row ∈ db.all model, ∀ row' ∈ db.all model, ∀ id,
      row.field? field = some (.int id) → row'.field? field = some (.int id) → row = row' := by
  unfold HeldOnce
  rw [List.nodup_iff_pairwise_ne, List.pairwise_filterMap]
  simp only [Record.heldKey?_eq_some_iff]
  constructor
  · intro h row hr row' hr' id hid hid'
    by_contra hne
    have hsymm : Std.Symm fun row row' : Record => ∀ id, row.field? field = some (.int id) →
        ∀ id', row'.field? field = some (.int id') → id ≠ id' :=
      ⟨fun _ _ h id hid id' hid' he => h id' hid' id hid he.symm⟩
    exact h.forall hr hr' hne id hid id hid' rfl
  · intro h
    apply (hn.ids_increase model).imp_of_mem
    rintro row row' hr hr' hlt id hid _ hid' rfl
    rw [h row hr row' hr' id hid hid'] at hlt
    exact Int.lt_irrefl _ hlt

/-- The field of the primary key is held once. -/
theorem Numbered.heldOnce_id (hn : db.Numbered) : db.HeldOnce model "id" := by
  rw [hn.heldOnce_iff]
  intro row hr row' hr' id hid hid'
  rw [Record.field?_id, Option.some.injEq, Value.int.injEq] at hid hid'
  have hkey : row.id = row'.id := hid.trans hid'.symm
  have hfind := hn.find?_of_mem hr
  rw [hkey, hn.find?_of_mem hr'] at hfind
  exact (Option.some.inj hfind).symm

/-- The first of the holders is all of them. -/
theorem HeldOnce.head?_holders (h : db.HeldOnce model field) (hn : db.Numbered) (id : Int) :
    (db.holders model field id).head?.toList = db.holders model field id := by
  have hsame : ∀ row ∈ db.holders model field id, ∀ row' ∈ db.holders model field id,
      row = row' := by
    intro row hr row' hr'
    obtain ⟨hr, hid⟩ := mem_holders.mp hr
    obtain ⟨hr', hid'⟩ := mem_holders.mp hr'
    exact hn.heldOnce_iff.mp h row hr row' hr' id hid hid'
  have hincrease : (db.holders model field id).Pairwise fun row row' => row.id < row'.id :=
    (hn.ids_increase model).filter _
  match hh : db.holders model field id with
  | [] => rfl
  | [row] => rfl
  | row :: row' :: rest =>
    rw [hh] at hsame hincrease
    have hlt := (List.pairwise_cons.mp hincrease).1 row' List.mem_cons_self
    rw [hsame row List.mem_cons_self row' (by simp)] at hlt
    exact (Int.lt_irrefl _ hlt).elim

end Database

end Fixtures
