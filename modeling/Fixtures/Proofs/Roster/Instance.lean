import Fixtures.Proofs.Outcome
import Fixtures.Roster

/-!
# Operations on one instance

Changing and saving an instance as equations, one for an instance that is saved and one for an
instance that is not, and operations on the instance at a position of a roster in the same way.
-/

namespace Fixtures

/-- The record that a factory makes of a new one. -/
def Factory.afterCreating (factory : Factory) (created : Record) : Record :=
  match factory.hooks.afterCreate with
  | none => created
  | some hook => hook created

/-- The hook after creating, where there is one, leaves model and key of a record alone. -/
def Factory.KeepsKeys (factory : Factory) : Prop :=
  ∀ hook, factory.hooks.afterCreate = some hook →
    ∀ record : Record, (hook record).model = record.model ∧ (hook record).id = record.id

theorem Factory.KeepsKeys.afterCreating {factory : Factory} (h : factory.KeepsKeys)
    (record : Record) : (factory.afterCreating record).model = record.model ∧
      (factory.afterCreating record).id = record.id := by
  unfold Factory.afterCreating
  split
  · exact ⟨rfl, rfl⟩
  · rename_i hook hh
    exact h hook hh record

namespace Instance

variable {σ : Type} [RecordStore σ] {item : Instance} {record : Record}

def revised (item : Instance) (changes : AttributeMap) : Instance :=
  { item with attributes := item.attributes.overlay changes }

theorem revise_of_none (changes : AttributeMap) (store : σ) (h : item.record = none) :
    revise changes (item, store) = .ok () (item.revised changes, store) := by
  obtain ⟨index, attributes, overrides, saved⟩ := item
  cases h
  rfl

theorem revise_of_some (changes : AttributeMap) (store : σ) (h : item.record = some record) :
    revise changes (item, store) =
      match RecordStore.replace record (record.attributes.overlay changes) store with
      | .ok found left => .ok () ({ item.revised changes with record := some found }, left)
      | .error error left => .error (.store error) (item.revised changes, left) := by
  obtain ⟨index, attributes, overrides, saved⟩ := item
  cases h
  rfl

theorem save_of_some (factory : Factory) (store : σ) (h : item.record = some record) :
    save factory (item, store) = .ok () (item, store) := by
  obtain ⟨index, attributes, overrides, saved⟩ := item
  cases h
  rfl

/-- Saving inserts a record, and replaces it by what the hook makes of it if that differs. -/
theorem save_of_none (factory : Factory) (store : σ) (h : item.record = none) :
    save factory (item, store) =
      match RecordStore.insert factory.model item.attributes store with
      | .error error left => .error (.store error) (item, left)
      | .ok created left =>
        if (factory.afterCreating created).attributes.sameValues created.attributes then
          .ok () ({ item with record := some (factory.afterCreating created) }, left)
        else
          match RecordStore.replace (factory.afterCreating created)
            (factory.afterCreating created).attributes left with
          | .error error left => .error (.store error) (item, left)
          | .ok found left => .ok () ({ item with record := some found }, left) := by
  obtain ⟨index, attributes, overrides, saved⟩ := item
  cases h
  rfl

end Instance

/-! ## Instances of a roster -/

namespace Roster

/-- What declarations note in a roster, apart from its instances. -/
def marks (roster : Roster) : Roster := { roster with instances := [] }

@[simp] theorem marks_claimed (roster : Roster) (saved : Bool) :
    roster.marks.claimed saved = roster.claimed saved := rfl

@[simp] theorem marks_hasCollection (roster : Roster) :
    roster.marks.hasCollection = roster.hasCollection := rfl

theorem instance?_setInstance {roster : Roster} {position : Nat} {item : Instance}
    (h : roster.instance? position = some item) (item' : Instance) (p : Nat) :
    (roster.setInstance position item').instance? p =
      if p = position then some item' else roster.instance? p := by
  have hlt : position < roster.instances.length := (List.getElem?_eq_some_iff.mp h).1
  show (roster.instances.set position item')[p]? = _
  by_cases hp : p = position
  · rw [if_pos hp, hp, List.getElem?_set_self hlt]
  · rw [if_neg hp, List.getElem?_set_ne (Ne.symm hp)]
    rfl

theorem instance?_push (roster : Roster) (item : Instance) (p : Nat) :
    (roster.push item).instance? p = if p = roster.size then some item else roster.instance? p := by
  show (roster.instances ++ [item])[p]? = _
  by_cases hp : p = roster.size
  · rw [if_pos hp, hp]
    exact List.getElem?_concat_length
  · rw [if_neg hp]
    change p ≠ roster.instances.length at hp
    -- Before the new instance nothing moves, and behind it there is nothing.
    by_cases hlt : p < roster.instances.length
    · rw [List.getElem?_append_left hlt]
      rfl
    · rw [List.getElem?_eq_none (by rw [List.length_append, List.length_singleton]; omega)]
      exact (List.getElem?_eq_none (by omega)).symm

theorem instance?_size (roster : Roster) : roster.instance? roster.size = none :=
  List.getElem?_eq_none (Nat.le_refl _)

theorem setInstance_self {roster : Roster} {position : Nat} {item : Instance}
    (h : roster.instance? position = some item) : roster.setInstance position item = roster := by
  obtain ⟨hlt, hi⟩ := List.getElem?_eq_some_iff.mp h
  unfold setInstance
  rw [← hi, List.set_getElem_self]

theorem lt_size_iff {roster : Roster} {position : Nat} :
    position < roster.size ↔ (roster.instance? position).isSome = true := by
  show position < roster.instances.length ↔ roster.instances[position]?.isSome = true
  rw [Option.isSome_iff_ne_none, Ne, List.getElem?_eq_none_iff]
  omega

/-- Rosters with instances at the same positions are of the same size. -/
theorem size_eq_of_isSome {roster roster' : Roster}
    (h : ∀ p, (roster'.instance? p).isSome = (roster.instance? p).isSome) :
    roster'.size = roster.size := by
  apply Nat.le_antisymm
  · apply Nat.le_of_not_lt
    intro hlt
    rw [lt_size_iff, h, ← lt_size_iff] at hlt
    omega
  · apply Nat.le_of_not_lt
    intro hlt
    rw [lt_size_iff, ← h, ← lt_size_iff] at hlt
    omega

variable {σ α : Type} (operation : EStateM Error (Instance × σ) α)

theorem onInstance_of_none {roster : Roster} {position : Nat} (store : σ)
    (h : roster.instance? position = none) :
    onInstance position operation (roster, store) =
      .error (.noSuchAccessor s!"{roster.factory}[{position}]") (roster, store) := by
  unfold onInstance
  dsimp only
  rw [h]

theorem onInstance_of_some {roster : Roster} {position : Nat} {item : Instance} (store : σ)
    (h : roster.instance? position = some item) :
    onInstance position operation (roster, store) =
      match operation (item, store) with
      | .ok result (item, store) => .ok result (roster.setInstance position item, store)
      | .error error (item, store) => .error error (roster.setInstance position item, store) := by
  cases ho : operation (item, store) with
  | ok result left => simp only [onInstance, h, ho]
  | error error left => simp only [onInstance, h, ho]

end Roster

end Fixtures
