import Fixtures.Catalog

/-!
# Following associations

The records that an association leads to from a given record, as a store has them.
-/

namespace Fixtures.Catalog

variable {σ : Type} [RecordStore σ]

/-- The records of a model that have the given keys, for each key the first one. -/
def recordsByKey (model : String) : List Value → σ → List Record × σ
  | [], store => ([], store)
  | key :: keys, store =>
    let (found, store) := RecordStore.selectFirst model "id" key store
    let (rest, store) := recordsByKey model keys store
    (found.toList ++ rest, store)

/-- The records that `association` leads to from `record`, with the store left by looking. -/
def follow (record : Record) (association : Association) (store : σ) : List Record × σ :=
  let ownKey := Value.int record.id
  match association.kind with
  | .belongsTo =>
    match record.field? association.foreignKey with
    | none | some .null => ([], store)
    | some key =>
      let (found, store) := RecordStore.selectFirst association.targetModel "id" key store
      (found.toList, store)
  | .hasOne =>
    let (found, store) :=
      RecordStore.selectFirst association.targetModel association.foreignKey ownKey store
    (found.toList, store)
  | .hasMany => RecordStore.select association.targetModel association.foreignKey ownKey store
  | .manyToMany through sourceKey targetKey =>
    let (joins, store) := RecordStore.select through sourceKey ownKey store
    recordsByKey association.targetModel (joins.filterMap (·.field? targetKey)) store

/-- The records that the association of a name leads to from `record`. -/
def related (catalog : Catalog) (record : Record) (name : String) :
    EStateM Error σ (List Record) := fun store =>
  match (catalog.schema? record.model).bind (·.association? name) with
  | none =>
    .error (.linkResolution record.model name (.noSuchAssociation record.model)) store
  | some association =>
    let (records, store) := follow record association store
    .ok records store

end Fixtures.Catalog
