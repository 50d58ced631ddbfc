import Fixtures.Factory
import Fixtures.Names.Accessor
import Fixtures.Schema

/-!
# Catalogs

A catalog keeps factories by their names and schemas by their models. That each is kept under its
own name is part of the type.
-/

namespace Fixtures

/-- The known factories and schemas. -/
structure Catalog where
  factories : SortedMap Factory := ∅
  schemas : SortedMap Schema := ∅
  name_of_factory : ∀ name factory, factories.get? name = some factory → factory.name = name := by
    simp
  model_of_schema : ∀ model schema, schemas.get? model = some schema → schema.model = model := by
    simp

namespace Catalog

instance : EmptyCollection Catalog := ⟨{}⟩

/-- Adds a factory, in place of an earlier one of its name. -/
def register (catalog : Catalog) (factory : Factory) : Catalog :=
  { catalog with
    factories := catalog.factories.insert factory.name factory
    name_of_factory := fun name found h => by
      rw [SortedMap.get?_insert] at h
      split at h
      · rename_i heq
        rw [heq, Option.some.inj h]
      · exact catalog.name_of_factory name found h }

def registerSchema (catalog : Catalog) (schema : Schema) : Catalog :=
  { catalog with
    schemas := catalog.schemas.insert schema.model schema
    model_of_schema := fun model found h => by
      rw [SortedMap.get?_insert] at h
      split at h
      · rename_i heq
        rw [heq, Option.some.inj h]
      · exact catalog.model_of_schema model found h }

def factory? (catalog : Catalog) (name : String) : Option Factory := catalog.factories.get? name

/-- The factory of a name, or the error that there is none. -/
def factory (catalog : Catalog) (name : String) : Except Error Factory :=
  match catalog.factory? name with
  | some factory => .ok factory
  | none => .error (.unknownFactory name)

def schema? (catalog : Catalog) (model : String) : Option Schema := catalog.schemas.get? model

def names (catalog : Catalog) : List String := catalog.factories.keys

/-- The factory and form that the name of a statement stands for. A factory's own name always
stands for its singleton; any other name is the first factory's that has it among its accessor
names. -/
def resolveName (catalog : Catalog) (settings : Settings) (name : String) :
    Except Error (String × Form) :=
  if (catalog.factory? name).isSome then .ok (name, .singleton)
  else
    match catalog.names.findSome? fun factory =>
      ((Names.derive settings factory).form? name).map (factory, ·) with
    | some found => .ok found
    | none => .error (.unknownAccessor name)

end Catalog

end Fixtures
