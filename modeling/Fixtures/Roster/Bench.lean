import Fixtures.Counters
import Fixtures.Names.Accessor
import Fixtures.Roster

/-!
# Declarations

What a declaration does to the roster of its factory. It works on a `Bench`: the roster, the
sequence counters and the store. A position that exists takes the overrides of the declaration, a
new one is built with them; a record form saves what it declares as it goes. A failed declaration
leaves everything up to the failing step: a spent index, a set singleton, claimed positions.
-/

namespace Fixtures

/-- What a statement gives besides its name. -/
inductive Arguments where
  | none
  -- A number of instances of the collection.
  | count (count : Nat)
  -- Overrides, a map for each instance.
  | overrides (maps : List AttributeMap)

/-- What a declaration works on. -/
structure Bench (σ : Type) where
  roster : Roster
  counters : Counters
  store : σ

namespace Bench

variable {σ α : Type} [RecordStore σ]

/-- Runs an operation on the roster and the store. -/
def onRoster (operation : EStateM Error (Roster × σ) α) : EStateM Error (Bench σ) α := fun bench =>
  match operation (bench.roster, bench.store) with
  | .ok result (roster, store) => .ok result { bench with roster, store }
  | .error error (roster, store) => .error error { bench with roster, store }

def modifyRoster (change : Roster → Roster) : EStateM Error (Bench σ) Unit :=
  modify fun bench => { bench with roster := change bench.roster }

/-- Builds a new instance at the end of the roster. Its index is spent even if an expression
fails. -/
def build (factory : Factory) (overrides : AttributeMap) : EStateM Error (Bench σ) Unit :=
  fun bench =>
    match Counters.draw factory 1 bench.counters with
    | .error error counters => .error error { bench with counters }
    | .ok [] counters =>
      .error (.expression factory.name (counters.current factory.name) ""
        "no attributes were produced") { bench with counters }
    | .ok ((index, attributes) :: _) counters =>
      let item : Instance :=
        { index, attributes := factory.finish attributes overrides, overrides }
      .ok () { bench with counters, roster := bench.roster.push item }

/-- Sees to it that there is an instance at a position: an existing one takes the overrides, a
missing one is built with them. -/
def prepare (factory : Factory) (position : Nat) (overrides : Option AttributeMap) :
    EStateM Error (Bench σ) Unit := do
  if position < (← get).roster.size then
    match overrides with
    | none => pure ()
    | some overrides => discard <| onRoster (Roster.override position overrides)
  else build factory (overrides.getD ∅)

def saveIf (saved : Bool) (factory : Factory) (position : Nat) : EStateM Error (Bench σ) Unit :=
  if saved then onRoster (Roster.onInstance position (Instance.save factory)) else pure ()

/-- Declares the singleton, and answers its position: where it was declared before, or else the
first position. With several instances and no singleton among them it is unclear which is meant. -/
def declareSingleton (factory : Factory) (overrides : Option AttributeMap) (saved : Bool) :
    EStateM Error (Bench σ) Nat := do
  let roster := (← get).roster
  if roster.singleton = none ∧ 2 ≤ roster.size then
    throw (.uniquenessViolation roster.factory roster.size)
  else
    let position := roster.singleton.getD 0
    prepare factory position overrides
    modifyRoster ({ · with singleton := some position })
    saveIf saved factory position
    return position

/-- Claims positions from a given one on, one for each element of a list of overrides. -/
def claimFrom (factory : Factory) (saved : Bool) :
    Nat → List (Option AttributeMap) → EStateM Error (Bench σ) Unit
  | _, [] => pure ()
  | position, overrides :: rest => do
    prepare factory position overrides
    modifyRoster (·.withClaimed saved (position + 1))
    saveIf saved factory position
    claimFrom factory saved (position + 1) rest

/-- Declares the collection with one more claimed position for each element of a list of overrides,
and answers these positions. -/
def declareCollection (factory : Factory) (overrides : List (Option AttributeMap)) (saved : Bool) :
    EStateM Error (Bench σ) (List Nat) := do
  let start := (← get).roster.claimed saved
  modifyRoster ({ · with hasCollection := true })
  claimFrom factory saved start overrides
  return List.range' start overrides.length

/-- Declares the collection as it is, and answers all positions. -/
def referToCollection : EStateM Error (Bench σ) (List Nat) := do
  modifyRoster ({ · with hasCollection := true })
  return List.range (← get).roster.size

/-- Carries out the statement `name`, which stands for a form of the factory, and answers the
declared positions. -/
def declare (factory : Factory) (name : String) (form : Form) (arguments : Arguments) :
    EStateM Error (Bench σ) (List Nat) :=
  let saved := !form.isHash
  match form.isCollection, arguments with
  | false, .none => return [← declareSingleton factory none saved]
  | false, .overrides [overrides] => return [← declareSingleton factory (some overrides) saved]
  | false, .overrides maps => throw (.invalidDeclaration name (.notOneMap maps.length))
  | false, .count count => throw (.invalidDeclaration name (.counted count))
  | true, .none => referToCollection
  | true, .count count => declareCollection factory (List.replicate count none) saved
  | true, .overrides maps => declareCollection factory (maps.map some) saved

end Bench

end Fixtures
