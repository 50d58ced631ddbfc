import Fixtures.Settings
import Fixtures.Store

/-!
# Errors

Everything that declaring, linking and reading can end in, as causes. The wording is in
`Error.message` alone.
-/

namespace Fixtures

/-- How a name was declared in a block. -/
inductive Multiplicity where
  -- Only ever by the names of the singleton.
  | singleton
  -- At least once by a name of the collection.
  | collection
  deriving DecidableEq

def Multiplicity.label : Multiplicity → String
  | .singleton => "singleton"
  | .collection => "collection"

/-- Why the arguments of a declaration do not fit its name. -/
inductive DeclarationFault where
  -- A singleton was given this many maps of overrides instead of one.
  | notOneMap (count : Nat)
  -- A singleton was given a count.
  | counted (count : Nat)
  deriving DecidableEq

def DeclarationFault.message : DeclarationFault → String
  | .notOneMap count => s!"a singleton takes one override map, got {count}"
  | .counted count => s!"a singleton cannot be declared with a count ({count})"

/-- Why two factories cannot be linked, or an association cannot be followed. -/
inductive LinkFault where
  -- Neither model has an association of this name to the other.
  | noneNamed (association sourceModel targetModel : String)
  -- The model has several associations to the other, and none was asked for.
  | ambiguous (model otherModel : String) (associations : List String)
  -- Neither model has an association to the other.
  | noneKnown (sourceModel targetModel : String)
  -- The instance that is to give its key has no record.
  | notPersisted (factory : String) (position : Nat)
  -- The model of the record has no association of the name asked for.
  | noSuchAssociation (model : String)
  deriving DecidableEq

def LinkFault.message : LinkFault → String
  | .noneNamed association sourceModel targetModel =>
    s!"no association '{association}' between {sourceModel} and {targetModel}"
  | .ambiguous model otherModel associations =>
    let names := String.intercalate ", " associations
    s!"ambiguous associations from {model} to {otherModel}: {names}"
  | .noneKnown sourceModel targetModel =>
    s!"no association metadata between {sourceModel} and {targetModel}"
  | .notPersisted factory position => s!"'{factory}' entry {position} is not persisted"
  | .noSuchAssociation model => s!"model '{model}' has no such association"

/-- Why a statement, a link or an accessor failed. -/
inductive Error where
  -- No factory of this name is in the catalog.
  | unknownFactory (name : String)
  -- The name of a statement is no accessor name of any factory.
  | unknownAccessor (name : String)
  -- The arguments of a statement do not fit its name.
  | invalidDeclaration (name : String) (fault : DeclarationFault)
  -- A singleton was declared for a factory that has several instances already.
  | uniquenessViolation (factory : String) (count : Nat)
  -- The factory of an accessor was declared, but not in the accessor's form.
  | ambiguousAccess (name : String) (declared : Multiplicity)
  -- The block did not bind this accessor.
  | noSuchAccessor (name : String)
  -- The accessor asks for a record of an instance that was declared as a hash only.
  | notPersisted (name : String)
  | linkResolution (source target : String) (fault : LinkFault)
  -- The expression of a field failed with a message of its own.
  | expression (factory : String) (index : Nat) (field message : String)
  | store (error : StoreError)
  | settings (fault : Settings.Fault)
  deriving DecidableEq

namespace Error

def message : Error → String
  | .unknownFactory name => s!"Unknown factory: {name}"
  | .unknownAccessor name => s!"Unknown factory accessor: {name}"
  | .invalidDeclaration name fault => s!"Invalid declaration '{name}': {fault.message}"
  | .uniquenessViolation factory count =>
    s!"Uniqueness violation: factory '{factory}' already has {count} instances"
  | .ambiguousAccess name declared =>
    s!"No method '{name}': factory was declared as {declared.label}"
  | .noSuchAccessor name => s!"No method '{name}' in models context"
  | .notPersisted name => s!"'{name}' was declared in hash form and has no persisted record"
  | .linkResolution source target fault => s!"Cannot link '{source}' to '{target}': {fault.message}"
  | .expression factory index field message =>
    s!"Attribute expression failed for factory {factory} at index {index} ({field}): {message}"
  | .store error => error.message
  | .settings fault => fault.message

/-- Whether the error says that there is no such accessor here, as opposed to a failed one. -/
def isMissingAccessor : Error → Bool
  | .noSuchAccessor _ | .ambiguousAccess _ _ => true
  | _ => false

end Error

end Fixtures
