import Fixtures.Schema
import Fixtures.Settings
import Fixtures.Store.Record

/-!
# Serialized forms

Records, associations, schemas and settings as values, for keeping them outside of the program.
Each has one written form, an object. Readers are more lenient: they pass over unknown fields, and
they take the list of the field values in order of declaration for the object. Every field must be
there with a value of its type, except that settings fall back to their defaults field by field.
-/

namespace Fixtures

namespace Serial

/-- The values of all the fields of a structure that is written as an object or as a list. -/
def required? (names : List String) : Value → Option (List Value)
  | .object fields => names.mapM (SortedMap.lookupEntry · fields)
  | .list items => if items.length = names.length then some items else none
  | _ => none

/-- The values of those fields of a structure that are written, in an object or as the first ones
in a list. -/
def optional? (names : List String) : Value → Option (List (Option Value))
  | .object fields => some (names.map (SortedMap.lookupEntry · fields))
  | .list items =>
    if items.length ≤ names.length then
      some (items.map some ++ List.replicate (names.length - items.length) none)
    else none
  | _ => none

/-- The value of a written field, or a default for one that is not written. -/
def withDefault {α : Type} (default : α) (read : Value → Option α) : Option Value → Option α
  | none => some default
  | some value => read value

def bool? : Value → Option Bool
  | .bool b => some b
  | _ => none

def attributes? : Value → Option AttributeMap
  | .object fields => some (SortedMap.ofList fields)
  | _ => none

def map? {α : Type} (read : Value → Option α) : Value → Option (SortedMap α)
  | .object fields =>
    (fields.mapM fun field => (read field.2).map (field.1, ·)).map SortedMap.ofList
  | _ => none

def ofMap {α : Type} (write : α → Value) (map : SortedMap α) : Value :=
  Value.ofAttributes (map.map write)

end Serial

open Serial

namespace Record

def toValue (record : Record) : Value :=
  .object
    [("attributes", .ofAttributes record.attributes), ("id", .int record.id),
      ("model", .text record.model)]

/-- Reads a record. -/
def ofValue? (value : Value) : Option Record := do
  match ← required? ["model", "id", "attributes"] value with
  | [model, id, attributes] =>
    return { model := ← model.asText?, id := ← id.asInt?, attributes := ← attributes? attributes }
  | _ => none

end Record

namespace Association

def Kind.toValue : Kind → Value
  | .belongsTo => .text "BelongsTo"
  | .hasOne => .text "HasOne"
  | .hasMany => .text "HasMany"
  | .manyToMany through sourceKey targetKey =>
    .object [("ManyToMany", .object
      [("source_key", .text sourceKey), ("target_key", .text targetKey),
        ("through", .text through)])]

def Kind.ofName? (name : String) : Option Kind :=
  if name = "BelongsTo" then some .belongsTo
  else if name = "HasOne" then some .hasOne
  else if name = "HasMany" then some .hasMany
  else none

/-- Reads a kind. One without fields may also be written as an object with a null. -/
def Kind.ofValue? : Value → Option Kind
  | .text name => ofName? name
  | .object [(name, .null)] => ofName? name
  | .object [("ManyToMany", .object fields)] => do
    match ← required? ["through", "source_key", "target_key"] (.object fields) with
    | [through, sourceKey, targetKey] =>
      return .manyToMany (← through.asText?) (← sourceKey.asText?) (← targetKey.asText?)
    | _ => none
  | _ => none

def toValue (association : Association) : Value :=
  .object
    [("foreign_key", .text association.foreignKey), ("kind", association.kind.toValue),
      ("name", .text association.name), ("target_model", .text association.targetModel)]

/-- Reads an association. -/
def ofValue? (value : Value) : Option Association := do
  match ← required? ["name", "kind", "target_model", "foreign_key"] value with
  | [name, kind, targetModel, foreignKey] =>
    return {
      name := ← name.asText?
      kind := ← Kind.ofValue? kind
      targetModel := ← targetModel.asText?
      foreignKey := ← foreignKey.asText? }
  | _ => none

end Association

namespace Schema

def toValue (schema : Schema) : Value :=
  .object
    [("associations", ofMap Association.toValue schema.associations),
      ("model", .text schema.model)]

/-- Reads a schema. The name under which an association is written need not be its own. -/
def ofValue? (value : Value) : Option Schema := do
  match ← required? ["model", "associations"] value with
  | [model, associations] =>
    return { model := ← model.asText?, associations := ← map? Association.ofValue? associations }
  | _ => none

end Schema

namespace Settings

def toValue (settings : Settings) : Value :=
  .object
    [("hash_suffix", .text settings.hashSuffix),
      ("irregular_plurals", ofMap .text settings.irregularPlurals),
      ("reset_sequences_per_block", .bool settings.resetsCounters)]

/-- Reads settings. The suffix may be empty here. -/
def ofValue? (value : Value) : Option Settings := do
  let defaults : Settings := {}
  match ← optional? ["hash_suffix", "reset_sequences_per_block", "irregular_plurals"] value with
  | [hashSuffix, resetsCounters, irregularPlurals] =>
    return {
      hashSuffix := ← withDefault defaults.hashSuffix Value.asText? hashSuffix
      resetsCounters := ← withDefault defaults.resetsCounters bool? resetsCounters
      irregularPlurals :=
        ← withDefault defaults.irregularPlurals (map? Value.asText?) irregularPlurals }
  | _ => none

end Settings

end Fixtures
