import Fixtures.Names.Plural
import Fixtures.Settings

/-!
# Accessor names

A factory is spoken of by four names: its own name for the one record it stands for, the plural for
a collection of records, and either with a suffix for the attributes alone, the hash form. The same
names serve as statements in a block and as accessors of what the block left. Names can coincide;
the first form in the order of `Names.all` then has the name.
-/

namespace Fixtures

/-- What an accessor name stands for. -/
inductive Form where
  | singleton
  | singletonHash
  | collection
  | collectionHash
  deriving DecidableEq

namespace Form

def isCollection : Form → Bool
  | .singleton | .singletonHash => false
  | .collection | .collectionHash => true

def isHash : Form → Bool
  | .singleton | .collection => false
  | .singletonHash | .collectionHash => true

def label : Form → String
  | .singleton => "singleton"
  | .singletonHash => "singleton hash"
  | .collection => "collection"
  | .collectionHash => "collection hash"

end Form

/-- The accessor names of one factory. -/
structure Names where
  factory : String
  singleton : String
  singletonHash : String
  collection : String
  collectionHash : String
  deriving DecidableEq

namespace Names

/-- The accessor names that the settings give a factory. -/
def derive (settings : Settings) (factory : String) : Names :=
  let collection := plural settings.irregularPlurals factory
  { factory
    singleton := factory
    singletonHash := factory ++ settings.hashSuffix
    collection
    collectionHash := collection ++ settings.hashSuffix }

def get (names : Names) : Form → String
  | .singleton => names.singleton
  | .singletonHash => names.singletonHash
  | .collection => names.collection
  | .collectionHash => names.collectionHash

/-- All forms with their names. The order decides who has a name that two forms share. -/
def all (names : Names) : List (Form × String) :=
  [(.singleton, names.singleton), (.singletonHash, names.singletonHash),
    (.collection, names.collection), (.collectionHash, names.collectionHash)]

def form? (names : Names) (name : String) : Option Form :=
  (names.all.find? fun entry => entry.2 == name).map (·.1)

/-- The form found for a name has that name. -/
theorem get_of_form? {names : Names} {name : String} {form : Form}
    (h : names.form? name = some form) : names.get form = name := by
  obtain ⟨⟨f, n⟩, hfind, rfl⟩ := Option.map_eq_some_iff.mp h
  have hname : n = name := by simpa using List.find?_some hfind
  have hmem := List.mem_of_find?_eq_some hfind
  subst hname
  simp only [all, List.mem_cons, Prod.mk.injEq, List.not_mem_nil, or_false] at hmem
  rcases hmem with ⟨rfl, rfl⟩ | ⟨rfl, rfl⟩ | ⟨rfl, rfl⟩ | ⟨rfl, rfl⟩ <;> rfl

end Names

end Fixtures
