import Fixtures.Data.Value

/-!
# Records

A record is a stored instance of a model: the model's name, the primary key that the store gave it,
and the values of its other fields. The field name `id` always means the primary key.
-/

namespace Fixtures

/-- A stored instance of a model. -/
structure Record where
  model : String
  id : Int
  -- The stored fields, without the primary key.
  attributes : AttributeMap
  deriving DecidableEq

namespace Record

def field? (record : Record) (name : String) : Option Value :=
  if name = "id" then some (.int record.id) else record.attributes.get? name

def text? (record : Record) (name : String) : Option String :=
  (record.attributes.get? name).bind Value.asText?

def int? (record : Record) (name : String) : Option Int :=
  if name = "id" then some record.id else (record.attributes.get? name).bind Value.asInt?

/-- Whether two records agree in model, key and the values of all fields. -/
def same (a b : Record) : Bool :=
  a.model == b.model && a.id == b.id && a.attributes.sameValues b.attributes

theorem same_refl (record : Record) : record.same record := by
  simp [same, SortedMap.sameValues_refl]

theorem same_iff {a b : Record} :
    a.same b = true ↔ a.model = b.model ∧ a.id = b.id ∧
      a.attributes.sameValues b.attributes = true := by
  simp [same, and_assoc]

/-- Records that are the same have the same integers in their fields. -/
theorem field?_of_same {a b : Record} {field : String} {n : Int} (h : a.same b = true)
    (hf : a.field? field = some (.int n)) : b.field? field = some (.int n) := by
  obtain ⟨-, hid, hv⟩ := same_iff.mp h
  unfold field? at hf ⊢
  split
  · rename_i hn
    rw [if_pos hn] at hf
    rw [← hid]
    exact hf
  · rename_i hn
    rw [if_neg hn] at hf
    obtain ⟨w, hw, hs⟩ := SortedMap.get?_of_sameValues hv hf
    rw [hw]
    cases w <;> simp_all [Value.same]

end Record

end Fixtures
