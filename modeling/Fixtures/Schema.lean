import Fixtures.Data.SortedMap

/-!
# Schemas

A schema lists the associations of a model by name. Every association says which side of it keeps
the key, so that nobody has to guess.
-/

namespace Fixtures

namespace Association

/-- The shape of an association. -/
inductive Kind where
  -- The declaring model keeps the key.
  | belongsTo
  -- The other model keeps the key, in one record at most.
  | hasOne
  -- The other model keeps the key, in any number of records.
  | hasMany
  -- Records of a third model keep both keys: the declaring model's and the other model's.
  | manyToMany (through sourceKey targetKey : String)
  deriving DecidableEq

/-- The record that keeps the key of an association. -/
inductive KeyOwner where
  | source
  | target
  | through
  deriving DecidableEq

def KeyOwner.label : KeyOwner → String
  | .source => "source"
  | .target => "target"
  | .through => "through"

end Association

/-- A named association from the model that declares it to another. -/
structure Association where
  name : String
  kind : Association.Kind
  targetModel : String
  -- The field that keeps the key, where the kind does not name fields of its own.
  foreignKey : String
  deriving DecidableEq

namespace Association

def keyOwner (association : Association) : KeyOwner :=
  match association.kind with
  | .belongsTo => .source
  | .hasOne | .hasMany => .target
  | .manyToMany .. => .through

def isCollection (association : Association) : Bool :=
  match association.kind with
  | .belongsTo | .hasOne => false
  | .hasMany | .manyToMany .. => true

end Association

/-- The associations of a model. -/
structure Schema where
  model : String
  associations : SortedMap Association := ∅
  deriving DecidableEq

namespace Schema

/-- Adds an association under its name, in place of an earlier one. -/
def add (schema : Schema) (association : Association) : Schema :=
  { schema with associations := schema.associations.insert association.name association }

def association? (schema : Schema) (name : String) : Option Association :=
  schema.associations.get? name

/-- The associations to a model, in the order of their names. -/
def towards (schema : Schema) (target : String) : List Association :=
  schema.associations.values.filter (·.targetModel == target)

theorem association?_add (schema : Schema) (association : Association) (name : String) :
    (schema.add association).association? name =
      if name = association.name then some association else schema.association? name :=
  SortedMap.get?_insert ..

end Schema

end Fixtures
