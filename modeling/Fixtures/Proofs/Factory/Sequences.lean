import Fixtures.Proofs.Factory.Attributes
import Fixtures.Proofs.Factory.Template
import Fixtures.Proofs.Store.Constraints

/-!
# Sequences

What a factory defines for a field is a function of the index (`Factory.valueAt?`), and a sequence
is one that tells the indices apart.  A factory suits a database if it defines unique fields by
sequences and leaves no required field blank; its instances are then welcome as they are built.
-/

namespace Fixtures

/-- What the expression answers at an index, if it answers. -/
def Expression.value? (expression : Expression) (index : Nat) : Option Value :=
  (expression.evaluate index).toOption

/-- A sequence that shows the index. -/
def Expression.IsSequence : Expression → Prop
  | .template text => Template.HasPlaceholder text
  | .constant _ | .computed _ => False

/-- A sequence, or a constant that is not null. -/
def Expression.Fills : Expression → Prop
  | .template _ => True
  | .constant value => value.isNull = false
  | .computed _ => False

instance : DecidablePred Expression.IsSequence
  | .template text => inferInstanceAs (Decidable (Template.HasPlaceholder text))
  | .constant _ | .computed _ => inferInstanceAs (Decidable False)

instance : DecidablePred Expression.Fills
  | .template _ => inferInstanceAs (Decidable True)
  | .constant value => inferInstanceAs (Decidable (value.isNull = false))
  | .computed _ => inferInstanceAs (Decidable False)

theorem Expression.Fills.value? {expression : Expression} (h : expression.Fills) (index : Nat) :
    ∃ value, expression.value? index = some value ∧ value.isNull = false := by
  cases expression with
  | template text => exact ⟨_, rfl, rfl⟩
  | constant value => exact ⟨value, rfl, h⟩
  | computed rule => exact h.elim

namespace Factory

variable {factory : Factory} {index : Nat} {attributes : AttributeMap} {field : String}

/-- What the factory defines for a field at an index, if it defines the field. -/
def valueAt? (factory : Factory) (field : String) (index : Nat) : Option Value :=
  (factory.fields.get? field).bind (·.value? index)

/-- The attributes at an index are what the factory defines there. -/
theorem get?_attributesAt (h : factory.attributesAt index = .ok attributes) (field : String) :
    attributes.get? field = factory.valueAt? field index := by
  have hfield := attributesAt_eq_ok_iff.mp h field
  unfold answer? at hfield
  unfold valueAt? Expression.value?
  cases hget : factory.fields.get? field with
  | none =>
    rw [hget] at hfield
    exact Option.map_eq_none_iff.mp hfield.symm
  | some expression =>
    rw [hget] at hfield
    obtain ⟨value, hvalue, he⟩ := Option.map_eq_some_iff.mp hfield.symm
    rw [hvalue]
    show some value = (expression.evaluate index).toOption
    exact congrArg Except.toOption he

/-- The fields under a unique constraint that the factory defines are sequences, and it defines all
required fields by something that is not null. -/
structure Suits (factory : Factory) (db : Database) : Prop where
  unique : ∀ field ∈ Database.fieldsOf factory.model db.unique,
    ∀ expression ∈ factory.fields.get? field, expression.IsSequence
  required : ∀ field ∈ Database.fieldsOf factory.model db.required,
    ∃ expression ∈ factory.fields.get? field, expression.Fills

instance (factory : Factory) (db : Database) : Decidable (factory.Suits db) :=
  decidable_of_iff
    ((∀ field ∈ Database.fieldsOf factory.model db.unique,
        ∀ expression ∈ factory.fields.get? field, expression.IsSequence) ∧
      ∀ field ∈ Database.fieldsOf factory.model db.required,
        ∃ expression ∈ factory.fields.get? field, expression.Fills)
    ⟨fun h => ⟨h.1, h.2⟩, fun h => ⟨h.unique, h.required⟩⟩

namespace Suits

variable {db : Database}

theorem template? (h : factory.Suits db) (hf : field ∈ Database.fieldsOf factory.model db.unique)
    {expression : Expression} (he : factory.fields.get? field = some expression) :
    ∃ text, expression = .template text ∧ Template.HasPlaceholder text := by
  have hs := h.unique field hf expression he
  cases expression with
  | template text => exact ⟨text, rfl, hs⟩
  | constant | computed => exact hs.elim

/-- In a unique field the factory has different values at different indices. -/
theorem apart (h : factory.Suits db) (hf : field ∈ Database.fieldsOf factory.model db.unique)
    {i j : Nat} {value value' : Value} (hi : factory.valueAt? field i = some value)
    (hj : factory.valueAt? field j = some value') (hij : i ≠ j) : value.same value' = false := by
  unfold valueAt? at hi hj
  cases he : factory.fields.get? field with
  | none =>
    rw [he] at hi
    cases hi
  | some expression =>
    obtain ⟨text, rfl, hp⟩ := h.template? hf he
    rw [he] at hi hj
    cases hi
    cases hj
    show (Template.fill text i == Template.fill text j) = false
    rw [beq_eq_false_iff_ne]
    exact fun heq => hij (Template.fill_inj hp heq)

theorem valueAt?_isSome (h : factory.Suits db)
    (hf : field ∈ Database.fieldsOf factory.model db.unique)
    (hd : (factory.fields.get? field).isSome = true) (index : Nat) :
    ∃ value, factory.valueAt? field index = some value := by
  obtain ⟨expression, he⟩ := Option.isSome_iff_exists.mp hd
  obtain ⟨text, rfl, -⟩ := h.template? hf he
  unfold valueAt?
  rw [he]
  exact ⟨_, rfl⟩

theorem filled (h : factory.Suits db)
    (hf : field ∈ Database.fieldsOf factory.model db.required) (index : Nat) :
    ∃ value, factory.valueAt? field index = some value ∧ value.isNull = false := by
  obtain ⟨expression, he, hfills⟩ := h.required field hf
  unfold valueAt?
  rw [he]
  exact hfills.value? index

theorem of_constraints {db' : Database} (h : factory.Suits db) (hu : db'.unique = db.unique)
    (hr : db'.required = db.required) : factory.Suits db' :=
  ⟨hu ▸ h.unique, hr ▸ h.required⟩

end Suits

end Factory

end Fixtures
