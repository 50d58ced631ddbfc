import Fixtures.Catalog
import Fixtures.Counters

/-!
# Workshops

A workshop is what blocks run in: a catalog of factories, their sequence counters and the settings.
-/

namespace Fixtures

/-- A catalog with counters and settings. -/
structure Workshop where
  catalog : Catalog := ∅
  counters : Counters := {}
  settings : Settings := {}

namespace Workshop

def resolveName (workshop : Workshop) (name : String) : Except Error (String × Form) :=
  workshop.catalog.resolveName workshop.settings name

def names (workshop : Workshop) (factory : String) : Except Error Names :=
  (workshop.catalog.factory factory).map fun _ => Names.derive workshop.settings factory

/-- The attributes that a factory has at an index. No counter moves, and no hook runs. -/
def attributesAt (workshop : Workshop) (factory : String) (index : Nat) :
    Except Error AttributeMap := do
  (← workshop.catalog.factory factory).attributesAt index

/-- The workshop as a block finds it: with fresh counters, if the settings say so. -/
def startingBlock (workshop : Workshop) : Workshop :=
  if workshop.settings.resetsCounters then { workshop with counters := {} } else workshop

end Workshop

end Fixtures
