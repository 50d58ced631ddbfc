import Fixtures.Link.Resolution
import Fixtures.Roster.Bench
import Fixtures.Workshop

/-!
# Blocks

A block is a run of statements. Declarations build and save instances in the rosters of their
factories; links write keys into instances, or records that join two of them, for one pair after
the other. A statement that fails ends the block unless someone catches the error, and either way
what it did before it failed remains.
-/

namespace Fixtures

structure Block (σ : Type) where
  workshop : Workshop
  -- The rosters of the factories that the block has declared.
  rosters : SortedMap Roster := ∅
  store : σ

namespace Block

variable {σ α : Type} [RecordStore σ]

/-- The block before its first statement. -/
def start (workshop : Workshop) (store : σ) : Block σ :=
  { workshop := workshop.startingBlock, store }

def answer (result : Except Error α) : EStateM Error (Block σ) α := fun block =>
  match result with
  | .ok value => .ok value block
  | .error error => .error error block

/-- The bench of a factory. A factory without a roster gets one without instances. -/
def bench (block : Block σ) (factory : String) : Bench σ :=
  { roster := (block.rosters.get? factory).getD { factory }
    counters := block.workshop.counters
    store := block.store }

/-- Takes back a bench of a factory. -/
def setBench (block : Block σ) (factory : String) (bench : Bench σ) : Block σ :=
  { workshop := { block.workshop with counters := bench.counters }
    rosters := block.rosters.insert factory bench.roster
    store := bench.store }

def onBench (factory : String) (operation : EStateM Error (Bench σ) α) :
    EStateM Error (Block σ) α := fun block =>
  match operation (block.bench factory) with
  | .ok result bench => .ok result (block.setBench factory bench)
  | .error error bench => .error error (block.setBench factory bench)

/-- Carries out a declaration, and answers a reference to what it stands for. -/
def declare (name : String) (arguments : Arguments) : EStateM Error (Block σ) Ref := do
  let (factoryName, form) ← answer ((← get).workshop.resolveName name)
  let factory ← answer ((← get).workshop.catalog.factory factoryName)
  let positions ← onBench factoryName (Bench.declare factory name form arguments)
  return { factory := factoryName, form, positions }

def recordId? (block : Block σ) (factory : String) (position : Nat) : Option Int := do
  let roster ← block.rosters.get? factory
  let item ← roster.instance? position
  let record ← item.record
  return record.id

/-- The key that an instance gives to a link, which must be saved to have one. -/
def linkedId (link : Link) (factory : String) (position : Nat) : EStateM Error (Block σ) Int :=
  fun block =>
    match block.recordId? factory position with
    | some id => .ok id block
    | none =>
      .error (.linkResolution link.source.factory link.target.factory
        (.notPersisted factory position)) block

def revise (factory : String) (position : Nat) (changes : AttributeMap) :
    EStateM Error (Block σ) Unit := fun block =>
  match block.rosters.get? factory with
  | none => .error (.noSuchAccessor s!"{factory}[{position}]") block
  | some roster =>
    match Roster.onInstance position (Instance.revise changes) (roster, block.store) with
    | .ok _ (roster, store) =>
      .ok () { block with rosters := block.rosters.insert factory roster, store }
    | .error error (roster, store) =>
      .error error { block with rosters := block.rosters.insert factory roster, store }

def insertRecord (model : String) (attributes : AttributeMap) : EStateM Error (Block σ) Unit :=
  fun block =>
    match RecordStore.insert model attributes block.store with
    | .ok _ store => .ok () { block with store }
    | .error error store => .error (.store error) { block with store }

def linkPair (link : Link) (resolution : Resolution) (pair : Nat × Nat) :
    EStateM Error (Block σ) Unit := do
  let owner := resolution.owner
  let factories := (link.source.factory, link.target.factory)
  let association := resolution.association
  match association.kind with
  | .belongsTo =>
    let id ← linkedId link (owner.other.of factories) (owner.other.of pair)
    revise (owner.of factories) (owner.of pair)
      (SortedMap.insert ∅ association.foreignKey (.int id))
  | .hasOne | .hasMany =>
    let id ← linkedId link (owner.of factories) (owner.of pair)
    revise (owner.other.of factories) (owner.other.of pair)
      (SortedMap.insert ∅ association.foreignKey (.int id))
  | .manyToMany through sourceKey targetKey =>
    let ownerId ← linkedId link (owner.of factories) (owner.of pair)
    let otherId ← linkedId link (owner.other.of factories) (owner.other.of pair)
    insertRecord through
      (((∅ : AttributeMap).insert sourceKey (.int ownerId)).insert targetKey (.int otherId))

def linkPairs (link : Link) (resolution : Resolution) :
    List (Nat × Nat) → EStateM Error (Block σ) Unit
  | [] => pure ()
  | pair :: rest => do
    linkPair link resolution pair
    linkPairs link resolution rest

/-- Carries out a link, and answers the number of keys or joining records that it wrote. -/
def link (link : Link) : EStateM Error (Block σ) Nat := do
  let catalog := (← get).workshop.catalog
  let source ← answer (catalog.factory link.source.factory)
  let target ← answer (catalog.factory link.target.factory)
  let resolution ← answer (catalog.resolveLink source target link.via)
  let pairs := resolution.written link.pairs
  linkPairs link resolution pairs
  return pairs.length

def linkNames (source target : String) : EStateM Error (Block σ) Nat := do
  let source ← declare source .none
  let target ← declare target .none
  link { source, target }

end Block

end Fixtures
