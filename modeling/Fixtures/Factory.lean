import Fixtures.Error
import Fixtures.Factory.Template

/-!
# Factories

A factory describes how instances of a model are built: an expression for each field, the
association it prefers towards another factory, and hooks that run after building and after
creating. Evaluating a factory at an index touches nothing else (`Factory.attributesAt`); the
fields are evaluated in the order of their names, and the first that fails decides the error.
-/

namespace Fixtures

/-- How the value of a field comes from a sequence index. -/
inductive Expression where
  | constant (value : Value)
  -- A text with placeholders for the index.
  | template (text : String)
  -- Any function of the index, which may fail with a message.
  | computed (rule : Nat → Except String Value)

/-- The value of an expression at an index, or the message of its failure. -/
def Expression.evaluate (expression : Expression) (index : Nat) : Except String Value :=
  match expression with
  | .constant value => .ok value
  | .template text => .ok (.text (Template.fill text index))
  | .computed rule => rule index

/-- What a factory does with its instances at two points of their lives. Hooks are functions of
what they are given: they keep no state of their own and do not reach the store. -/
structure Hooks where
  -- Runs on the attributes once expressions and overrides are in place.
  afterBuild : Option (AttributeMap → AttributeMap) := none
  -- Runs on the record right after the store created it.
  afterCreate : Option (Record → Record) := none

/-- How instances of a model are built. -/
structure Factory where
  name : String
  model : String
  -- The expression of each field.
  fields : SortedMap Expression := ∅
  -- The association to use towards another factory, by that factory's name.
  preferences : SortedMap String := ∅
  hooks : Hooks := {}

namespace Factory

def withField (factory : Factory) (field : String) (expression : Expression) : Factory :=
  { factory with fields := factory.fields.insert field expression }

/-- Prefers an association towards another factory. -/
def withPreference (factory : Factory) (other association : String) : Factory :=
  { factory with preferences := factory.preferences.insert other association }

def withAfterBuild (factory : Factory) (hook : AttributeMap → AttributeMap) : Factory :=
  { factory with hooks := { factory.hooks with afterBuild := some hook } }

def withAfterCreate (factory : Factory) (hook : Record → Record) : Factory :=
  { factory with hooks := { factory.hooks with afterCreate := some hook } }

def preference? (factory : Factory) (other : String) : Option String :=
  factory.preferences.get? other

def evaluateField (factory : Factory) (index : Nat) (attributes : AttributeMap)
    (entry : String × Expression) : Except Error AttributeMap :=
  match entry.2.evaluate index with
  | .ok value => .ok (attributes.insert entry.1 value)
  | .error message => .error (.expression factory.name index entry.1 message)

def attributesAt (factory : Factory) (index : Nat) : Except Error AttributeMap :=
  factory.fields.entries.foldlM (factory.evaluateField index) ∅

/-- The attributes of a new instance, from evaluated ones and overrides. -/
def finish (factory : Factory) (attributes overrides : AttributeMap) : AttributeMap :=
  match factory.hooks.afterBuild with
  | none => attributes.overlay overrides
  | some hook => hook (attributes.overlay overrides)

theorem finish_eq (factory : Factory) (attributes overrides : AttributeMap) :
    factory.finish attributes overrides =
      factory.hooks.afterBuild.getD id (attributes.overlay overrides) := by
  unfold finish
  cases factory.hooks.afterBuild <;> rfl

end Factory

end Fixtures
