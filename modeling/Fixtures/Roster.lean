import Fixtures.Error
import Fixtures.Factory

/-!
# Rosters

The roster of a factory lists the instances that a block has built for it, in the order of their
building, and remembers which of them is the singleton and how many positions the declarations of
the collection have claimed. Record forms and hash forms claim separately, so a record form can
claim an instance that a hash form built.

Operations on an instance run together with the store. A failed one leaves what it did before it
failed: changes enter the attributes first and the store second, so a refused change stays in the
attributes and is missing in the record.
-/

namespace Fixtures

/-- An instance that a factory has built. -/
structure Instance where
  -- The sequence index at which its attributes were evaluated.
  index : Nat
  attributes : AttributeMap
  -- The overrides that declarations and merges have given.
  overrides : AttributeMap := ∅
  -- The record, once the instance is saved.
  record : Option Record := none
  deriving DecidableEq

namespace Instance

variable {σ : Type} [RecordStore σ]

def isPersisted (item : Instance) : Bool := item.record.isSome

/-- Writes changes into the attributes, and for a saved instance into the store: over the fields of
the record, so that a field which the changes do not name stays as the record has it. -/
def revise (changes : AttributeMap) : EStateM Error (Instance × σ) Unit := fun (item, store) =>
  let item := { item with attributes := item.attributes.overlay changes }
  match item.record with
  | none => .ok () (item, store)
  | some record =>
    match RecordStore.replace record (record.attributes.overlay changes) store with
    | .ok record store => .ok () ({ item with record := some record }, store)
    | .error error store => .error (.store error) (item, store)

/-- Gives further overrides, which are changes that the instance remembers. -/
def override (overrides : AttributeMap) : EStateM Error (Instance × σ) Unit :=
  fun (item, store) =>
    revise overrides ({ item with overrides := item.overrides.overlay overrides }, store)

/-- Saves the instance unless it is saved already. The hook after creating sees the new record; if
it changes a value, the store is given the record as the hook left it. The instance counts as saved
only once all of this has succeeded. -/
def save (factory : Factory) : EStateM Error (Instance × σ) Unit := fun (item, store) =>
  match item.record with
  | some _ => .ok () (item, store)
  | none =>
    match RecordStore.insert factory.model item.attributes store with
    | .error error store => .error (.store error) (item, store)
    | .ok created store =>
      let record := match factory.hooks.afterCreate with
        | none => created
        | some hook => hook created
      if record.attributes.sameValues created.attributes then
        .ok () ({ item with record := some record }, store)
      else
        match RecordStore.replace record record.attributes store with
        | .error error store => .error (.store error) (item, store)
        | .ok record store => .ok () ({ item with record := some record }, store)

end Instance

/-- The instances of one factory in a block. -/
structure Roster where
  factory : String
  instances : List Instance := []
  -- The position of the singleton.
  singleton : Option Nat := none
  -- The number of positions that record forms of the collection have claimed.
  recordsClaimed : Nat := 0
  -- The number of positions that hash forms of the collection have claimed.
  hashesClaimed : Nat := 0
  -- Whether a name of the collection was declared.
  hasCollection : Bool := false
  deriving DecidableEq

namespace Roster

variable {σ α : Type}

/-- How the factory was declared. -/
def multiplicity (roster : Roster) : Multiplicity :=
  if roster.hasCollection then .collection else .singleton

def hasSingleton (roster : Roster) : Bool := roster.singleton.isSome

def size (roster : Roster) : Nat := roster.instances.length

def instance? (roster : Roster) (position : Nat) : Option Instance := roster.instances[position]?

def singletonInstance? (roster : Roster) : Option Instance :=
  roster.singleton.bind roster.instance?

def claimed (roster : Roster) (saved : Bool) : Nat :=
  if saved then roster.recordsClaimed else roster.hashesClaimed

def withClaimed (roster : Roster) (saved : Bool) (count : Nat) : Roster :=
  if saved then { roster with recordsClaimed := count } else { roster with hashesClaimed := count }

def setInstance (roster : Roster) (position : Nat) (item : Instance) : Roster :=
  { roster with instances := roster.instances.set position item }

def push (roster : Roster) (item : Instance) : Roster :=
  { roster with instances := roster.instances ++ [item] }

/-- Runs an operation on the instance at a position, and keeps what the operation leaves whether it
succeeds or fails. -/
def onInstance (position : Nat) (operation : EStateM Error (Instance × σ) α) :
    EStateM Error (Roster × σ) α := fun (roster, store) =>
  match roster.instance? position with
  | none => .error (.noSuchAccessor s!"{roster.factory}[{position}]") (roster, store)
  | some item =>
    match operation (item, store) with
    | .ok result (item, store) => .ok result (roster.setInstance position item, store)
    | .error error (item, store) => .error error (roster.setInstance position item, store)

/-- Gives the instance at a position further overrides, and answers its attributes. -/
def override [RecordStore σ] (position : Nat) (overrides : AttributeMap) :
    EStateM Error (Roster × σ) AttributeMap :=
  onInstance position do
    Instance.override overrides
    return (← get).1.attributes

end Roster

end Fixtures
