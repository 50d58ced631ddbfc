import Fixtures.Block
import Fixtures.Context

/-!
# Running blocks

Blocks as lists of statements. Every statement is an attempt, whose failure may be caught or not:
a caught failure leaves what the statement did so far and the block goes on, and the first failure
that is not caught ends the block. A block that completes answers its context. The workshop and
the store go on from what the block left either way.
-/

namespace Fixtures

/-- What a block can do next. -/
inductive Statement where
  -- Declares a name.
  | declare (name : String) (arguments : Arguments)
  | link (link : Link)
  -- Declares two names without arguments, and links what they stand for.
  | linkNames (source target : String)
  -- Adds a factory to the catalog while the block runs.
  | register (factory : Factory)
  -- Adds a schema to the catalog while the block runs.
  | registerSchema (schema : Schema)
  -- Empties the catalog while the block runs.
  | clearCatalog

/-- What a statement answers. -/
inductive Outcome where
  | declared (ref : Ref)
  -- The number of keys or joining records written.
  | linked (written : Nat)
  | done
  deriving DecidableEq

/-- A statement, with whether its failure is caught. -/
structure Attempt where
  statement : Statement
  caught : Bool := false

namespace Block

variable {σ : Type} [RecordStore σ]

def changeCatalog (change : Catalog → Catalog) : EStateM Error (Block σ) Outcome := do
  modify fun block =>
    { block with workshop := { block.workshop with catalog := change block.workshop.catalog } }
  return .done

def perform : Statement → EStateM Error (Block σ) Outcome
  | .declare name arguments => return .declared (← Block.declare name arguments)
  | .link link => return .linked (← Block.link link)
  | .linkNames source target => return .linked (← Block.linkNames source target)
  | .register factory => changeCatalog (·.register factory)
  | .registerSchema schema => changeCatalog (·.registerSchema schema)
  | .clearCatalog => changeCatalog fun _ => ∅

/-- Carries out statements up to the first failure that is not caught. -/
def performAll : List Attempt → EStateM Error (Block σ) Unit
  | [] => pure ()
  | attempt :: rest => fun block =>
    match perform attempt.statement block with
    | .ok _ block => performAll rest block
    | .error error block =>
      if attempt.caught then performAll rest block else .error error block

def context (enumeration : Enumeration) (block : Block σ) : Context :=
  Context.ofRosters enumeration block.workshop.settings block.rosters

end Block

/-- Runs a block in a workshop against a store. It answers the context of the block, or the error
that ended it, together with the workshop and the store that the block leaves. -/
def Workshop.run {σ : Type} [RecordStore σ] (enumeration : Enumeration) (workshop : Workshop)
    (store : σ) (attempts : List Attempt) : Except Error Context × Workshop × σ :=
  match Block.performAll attempts (Block.start workshop store) with
  | .ok _ block => (.ok (block.context enumeration), block.workshop, block.store)
  | .error error block => (.error error, block.workshop, block.store)

end Fixtures
