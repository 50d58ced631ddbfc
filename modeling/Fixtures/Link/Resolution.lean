import Fixtures.Catalog
import Fixtures.Link

/-!
# Choosing the association of a link

The association between two factories is the one asked for, or else the one that the source prefers
towards the target, or else the one that the target prefers towards the source. A name is looked up
on the side that it comes from first and on the other side second, and must lead from the one model
to the other. Without any name there has to be exactly one association from the source's model to
the target's, or none and exactly one back.
-/

namespace Fixtures

/-- The association chosen for a link. -/
structure Resolution where
  -- The side whose model declares the association.
  owner : Side
  association : Association
  deriving DecidableEq

namespace Resolution

/-- The side whose instances keep the key of the association, unless a third model does. -/
def holder? (resolution : Resolution) : Option Side :=
  match resolution.association.keyOwner with
  | .source => some resolution.owner
  | .target => some resolution.owner.other
  | .through => none

/-- The pairs that a link writes for: an instance that keeps the key takes it once, from the first
pair in which it occurs. -/
def written (resolution : Resolution) (pairs : List (Nat × Nat)) : List (Nat × Nat) :=
  match resolution.holder? with
  | some side => firstPerHolder side.of [] pairs
  | none => pairs

end Resolution

namespace Catalog

/-- The association of a name that the factory on one side has to the one on the other side. -/
def named? (catalog : Catalog) (name : String) (factories : Factory × Factory) (side : Side) :
    Option Resolution :=
  match (catalog.schema? (side.of factories).model).bind (·.association? name) with
  | some association =>
    if association.targetModel = (side.other.of factories).model then
      some { owner := side, association }
    else none
  | none => none

/-- The associations that the factory on one side has to the one on the other side. -/
def candidates (catalog : Catalog) (factories : Factory × Factory) (side : Side) :
    List Association :=
  match catalog.schema? (side.of factories).model with
  | some schema => schema.towards (side.other.of factories).model
  | none => []

/-- The name of the association to use, and the side that it comes from. -/
def wanted? (source target : Factory) (via : Option String) : Option (String × Side) :=
  match via with
  | some name => some (name, .source)
  | none =>
    match source.preference? target.name with
    | some name => some (name, .source)
    | none => (target.preference? source.name).map (·, .target)

/-- The only association that the factory on one of the sides has to the other, for the first side
that has any. -/
def unnamed (catalog : Catalog) (factories : Factory × Factory) :
    List Side → Except LinkFault Resolution
  | [] => .error (.noneKnown factories.1.model factories.2.model)
  | side :: sides =>
    match catalog.candidates factories side with
    | [] => unnamed catalog factories sides
    | [association] => .ok { owner := side, association }
    | several =>
      .error (.ambiguous (side.of factories).model (side.other.of factories).model
        (several.map (·.name)))

/-- The association to use between two factories, or why there is none. -/
def chooseAssociation (catalog : Catalog) (source target : Factory) (via : Option String) :
    Except LinkFault Resolution :=
  match wanted? source target via with
  | some (name, side) =>
    match catalog.named? name (source, target) side with
    | some found => .ok found
    | none =>
      match catalog.named? name (source, target) side.other with
      | some found => .ok found
      | none => .error (.noneNamed name source.model target.model)
  | none => catalog.unnamed (source, target) [.source, .target]

def resolveLink (catalog : Catalog) (source target : Factory) (via : Option String) :
    Except Error Resolution :=
  match catalog.chooseAssociation source target via with
  | .ok found => .ok found
  | .error fault => .error (.linkResolution source.name target.name fault)

end Catalog

end Fixtures
