import Fixtures.Names.Accessor

/-!
# References and links

A successful declaration answers a reference to the instances that it stands for. Two references
make a link, with an association named in between or not. Which instances a link pairs up depends
on the forms alone: two collections are paired position by position as far as the shorter one
goes, otherwise each instance on the left is paired with each on the right.
-/

namespace Fixtures

/-- The instances that a declaration stands for. -/
structure Ref where
  factory : String
  form : Form
  -- Their positions in the roster of the factory.
  positions : List Nat
  deriving DecidableEq

/-- A wish to link what two references stand for. -/
structure Link where
  source : Ref
  target : Ref
  -- The association to use, instead of the one that the factories or schemas suggest.
  via : Option String := none
  deriving DecidableEq

/-- A side of a link. -/
inductive Side where
  | source
  | target
  deriving DecidableEq

namespace Side

def other : Side → Side
  | .source => .target
  | .target => .source

def label : Side → String
  | .source => "source"
  | .target => "target"

/-- The component of a pair on a side. -/
def of {α : Type} (side : Side) (pair : α × α) : α :=
  match side with
  | .source => pair.1
  | .target => pair.2

end Side

/-- The pairs of source and target positions that a link joins. -/
def Link.pairs (link : Link) : List (Nat × Nat) :=
  if link.source.form.isCollection && link.target.form.isCollection then
    link.source.positions.zip link.target.positions
  else link.source.positions.flatMap fun s => link.target.positions.map fun t => (s, t)

/-- Keeps of a list of pairs the first one for each holder that is not among those seen. -/
def firstPerHolder (holder : Nat × Nat → Nat) (seen : List Nat) :
    List (Nat × Nat) → List (Nat × Nat)
  | [] => []
  | pair :: rest =>
    if holder pair ∈ seen then firstPerHolder holder seen rest
    else pair :: firstPerHolder holder (holder pair :: seen) rest

end Fixtures
