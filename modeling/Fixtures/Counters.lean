import Fixtures.Factory

/-!
# Sequence counters

Every factory name has a counter of the indices it has given out. Counters start at zero and move
forward until they are restarted; they are words of 64 bits, so after the last word a counter is
back at zero. Indices are taken before anything is evaluated at them, so an index is spent even
when its evaluation fails.
-/

namespace Fixtures

/-- A span of 64-bit words, from the first up to and without the second. -/
structure Span where
  first : UInt64
  next : UInt64
  deriving DecidableEq

/-- The indices in a span. There are none in a span that wraps around. -/
def Span.indices (span : Span) : List Nat :=
  List.range' span.first.toNat (span.next.toNat - span.first.toNat)

/-- The next index of every factory that has given one out. -/
structure Counters where
  next : SortedMap UInt64 := ∅
  deriving DecidableEq, Inhabited

namespace Counters

def word (counters : Counters) (factory : String) : UInt64 :=
  (counters.next.get? factory).getD 0

/-- The next index that the factory gives out. -/
def current (counters : Counters) (factory : String) : Nat := (counters.word factory).toNat

/-- The counters without the next `count` indices of a factory. -/
def advance (counters : Counters) (factory : String) (count : Nat) : Counters :=
  { next := counters.next.insert factory (counters.word factory + UInt64.ofNat count) }

/-- Gives out the next `count` indices of a factory: answers their span, and what it leaves. -/
def take (counters : Counters) (factory : String) (count : Nat) : Span × Counters :=
  let left := counters.advance factory count
  ({ first := counters.word factory, next := left.word factory }, left)

def restart (counters : Counters) (factory : String) : Counters :=
  { next := counters.next.erase factory }

theorem word_advance (counters : Counters) (factory other : String) (count : Nat) :
    (counters.advance factory count).word other =
      counters.word other + if other = factory then UInt64.ofNat count else 0 := by
  unfold advance word
  rw [SortedMap.get?_insert]
  by_cases h : other = factory
  · rw [if_pos h, if_pos h, h, Option.getD_some]
  · rw [if_neg h, if_neg h, UInt64.add_zero]

theorem word_restart (counters : Counters) (factory other : String) :
    (counters.restart factory).word other =
      if other = factory then 0 else counters.word other := by
  unfold restart word
  rw [SortedMap.get?_erase]
  by_cases h : other = factory
  · rw [if_pos h, if_pos h, Option.getD_none]
  · rw [if_neg h, if_neg h]

theorem current_lt (counters : Counters) (factory : String) :
    counters.current factory < UInt64.size :=
  (counters.word factory).toNat_lt

theorem current_advance (counters : Counters) (factory : String) (count : Nat) :
    (counters.advance factory count).current factory =
      (counters.current factory + count) % UInt64.size := by
  unfold current
  rw [word_advance, if_pos rfl, UInt64.toNat_add, UInt64.toNat_ofNat', Nat.add_mod_mod]

theorem current_advance_of_lt {counters : Counters} {factory : String} {count : Nat}
    (h : counters.current factory + count < UInt64.size) :
    (counters.advance factory count).current factory = counters.current factory + count := by
  rw [current_advance, Nat.mod_eq_of_lt h]

theorem current_advance_of_ne (counters : Counters) {factory other : String} (h : other ≠ factory)
    (count : Nat) : (counters.advance factory count).current other = counters.current other := by
  unfold current
  rw [word_advance, if_neg h, UInt64.add_zero]

/-- The next `count` indices of a factory, each with the attributes at it, in ascending order. -/
def draw (factory : Factory) (count : Nat) :
    EStateM Error Counters (List (Nat × AttributeMap)) := fun counters =>
  let (span, left) := counters.take factory.name count
  match span.indices.mapM fun index => (factory.attributesAt index).map (index, ·) with
  | .ok attributes => .ok attributes left
  | .error error => .error error left

end Counters

end Fixtures
