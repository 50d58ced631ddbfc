import Fixtures.Names.Accessor
import Fixtures.Roster

/-!
# Contexts

What a completed block leaves: the rosters, and the accessor names that they bind. Only names of
declared factories are bound, each to one form of one factory. Of several factories with one name
the first has it, and which of them comes first is left open: a context takes the factories in some
order (`Enumeration`). A reader answers for the names of its own form only.
-/

namespace Fixtures

/-- An order in which names are taken. Any order of them may come up. -/
structure Enumeration where
  order : List String → List String
  perm : ∀ names, (order names).Perm names

/-- Names as they are listed. -/
def Enumeration.listed : Enumeration := { order := id, perm := fun _ => .refl _ }

/-- The rosters of a block with the accessor names that they bind. -/
structure Context where
  rosters : SortedMap Roster
  -- The factory and form of each bound name.
  bindings : SortedMap (String × Form)
  deriving DecidableEq

/-- What an accessor answers. -/
inductive Reading where
  | record (record : Record)
  | hash (attributes : AttributeMap)
  | records (records : List Record)
  | hashes (attributes : List AttributeMap)
  deriving DecidableEq

namespace Context

/-- Binds those names of a factory that are free, in the order of its forms. -/
def bindNames (bindings : SortedMap (String × Form)) (names : Names) :
    SortedMap (String × Form) :=
  names.all.foldl (fun bindings (form, name) => bindings.insertNew name (names.factory, form))
    bindings

/-- The context of some rosters, whose factories bind their names in an order of the factories. -/
def ofRosters (enumeration : Enumeration) (settings : Settings) (rosters : SortedMap Roster) :
    Context :=
  { rosters
    bindings := ((enumeration.order rosters.keys).map (Names.derive settings)).foldl bindNames ∅ }

def accessors (context : Context) : List String := context.bindings.keys

def isBound (context : Context) (name : String) : Bool := context.bindings.contains name

def roster? (context : Context) (factory : String) : Option Roster := context.rosters.get? factory

def binding (context : Context) (name : String) : Except Error (String × Form) :=
  match context.bindings.get? name with
  | some binding => .ok binding
  | none => .error (.noSuchAccessor name)

def boundRoster (context : Context) (name factory : String) : Except Error Roster :=
  match context.roster? factory with
  | some roster => .ok roster
  | none => .error (.noSuchAccessor name)

/-- The roster of a name that is bound in a form. -/
def rosterIn (context : Context) (form : Form) (name : String) : Except Error Roster := do
  let (factory, bound) ← context.binding name
  if bound = form then context.boundRoster name factory else .error (.noSuchAccessor name)

def singletonIn (context : Context) (form : Form) (name : String) : Except Error Instance := do
  match (← context.rosterIn form name).singletonInstance? with
  | some item => .ok item
  | none => .error (.ambiguousAccess name .collection)

def collectionIn (context : Context) (form : Form) (name : String) :
    Except Error (List Instance) := do
  let roster ← context.rosterIn form name
  if roster.hasCollection then .ok roster.instances else .error (.ambiguousAccess name .singleton)

def recordOf (name : String) (item : Instance) : Except Error Record :=
  match item.record with
  | some record => .ok record
  | none => .error (.notPersisted name)

def record (context : Context) (name : String) : Except Error Record := do
  recordOf name (← context.singletonIn .singleton name)

def hash (context : Context) (name : String) : Except Error AttributeMap :=
  (context.singletonIn .singletonHash name).map (·.attributes)

/-- The attributes of a singleton with changes, which leave the singleton alone. -/
def hashWith (context : Context) (name : String) (changes : AttributeMap) :
    Except Error AttributeMap :=
  (context.hash name).map (·.overlay changes)

def records (context : Context) (name : String) : Except Error (List Record) := do
  (← context.collectionIn .collection name).mapM (recordOf name)

def hashes (context : Context) (name : String) : Except Error (List AttributeMap) :=
  (context.collectionIn .collectionHash name).map fun items => items.map (·.attributes)

/-- Overlays each map with the changes at its place; maps beyond the last changes stay. -/
def overlayEach : List AttributeMap → List AttributeMap → List AttributeMap
  | map :: maps, changes :: rest => map.overlay changes :: overlayEach maps rest
  | maps, _ => maps

/-- The attributes of the instances of a collection, each with the changes at its place. -/
def hashesWith (context : Context) (name : String) (changes : List AttributeMap) :
    Except Error (List AttributeMap) :=
  (context.hashes name).map (overlayEach · changes)

def read (context : Context) (name : String) : Except Error Reading := do
  match (← context.binding name).2 with
  | .singleton => (context.record name).map .record
  | .singletonHash => (context.hash name).map .hash
  | .collection => (context.records name).map .records
  | .collectionHash => (context.hashes name).map .hashes

/-- The singleton that a name may change, by its factory, roster and position. -/
def mergeTarget (context : Context) (name : String) : Except Error (String × Roster × Nat) := do
  let (factory, form) ← context.binding name
  if form.isCollection then .error (.noSuchAccessor name)
  else
    let roster ← context.boundRoster name factory
    match roster.singleton with
    | some position => .ok (factory, roster, position)
    | none => .error (.ambiguousAccess name .collection)

def setRoster (context : Context) (factory : String) (roster : Roster) : Context :=
  { context with rosters := context.rosters.insert factory roster }

/-- Gives a singleton further overrides, in the store too if it is saved, and answers its
attributes. -/
def merge {σ : Type} [RecordStore σ] (name : String) (overrides : AttributeMap) :
    EStateM Error (Context × σ) AttributeMap := fun (context, store) =>
  match context.mergeTarget name with
  | .error error => .error error (context, store)
  | .ok (factory, roster, position) =>
    match Roster.override position overrides (roster, store) with
    | .ok merged (roster, store) => .ok merged (context.setRoster factory roster, store)
    | .error error (roster, store) => .error error (context.setRoster factory roster, store)

end Context

end Fixtures
