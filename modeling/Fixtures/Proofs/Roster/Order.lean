import Fixtures.Proofs.Roster.Positions

/-!
# Indices in order

A new instance gets the index at which the counter of its factory stands, so the indices of a roster
increase with the position and stay below the counter (`Bench.InOrder`).  A counter at its last word
has no index left: the declaration that finds it there fails, and leaves a counter of zero beside
the instances that there are (`Bench.Wrapped`).  Nothing else brings the indices out of order
(`Bench.orderly_declare`).
-/

namespace Fixtures

namespace Roster

variable {roster roster' : Roster}

/-- The indices of the instances, in the order of their positions. -/
def indices (roster : Roster) : List Nat := roster.instances.map (·.index)

theorem indices_of_instances (h : roster'.instances = roster.instances) :
    roster'.indices = roster.indices := by
  unfold indices
  rw [h]

theorem indices_push (roster : Roster) (item : Instance) :
    (roster.push item).indices = roster.indices ++ [item.index] :=
  List.map_append

theorem indices_setInstance {position : Nat} {old item : Instance}
    (hi : roster.instance? position = some old) (hx : item.index = old.index) :
    (roster.setInstance position item).indices = roster.indices := by
  apply List.ext_getElem?
  intro p
  have hp := congrArg (Option.map (·.index)) (instance?_setInstance hi item p)
  unfold indices
  rw [List.getElem?_map, List.getElem?_map]
  refine hp.trans ?_
  by_cases he : p = position
  · rw [if_pos he, he, Option.map_some, hx]
    exact (congrArg (Option.map (·.index)) hi).symm
  · rw [if_neg he]
    rfl

/-- The indices strictly increase with the position, and stay below the next one to be given. -/
structure Ordered (roster : Roster) (next : Nat) : Prop where
  increasing : roster.indices.Pairwise (· < ·)
  below : ∀ index ∈ roster.indices, index < next

theorem ordered_of_instances_eq_nil (h : roster.instances = []) (next : Nat) :
    roster.Ordered next := by
  have hnil : roster.indices = [] := congrArg _ h
  exact ⟨hnil ▸ List.Pairwise.nil, fun _ hi => nomatch hnil ▸ hi⟩

theorem Ordered.of_indices {next next' : Nat} (h : roster.Ordered next)
    (hi : roster'.indices = roster.indices) (hn : next ≤ next') : roster'.Ordered next' :=
  ⟨hi ▸ h.increasing, fun index hm => Nat.lt_of_lt_of_le (h.below index (hi ▸ hm)) hn⟩

/-- Behind the old instances there is one that is new, with the next index. -/
theorem Ordered.push {next : Nat} (h : roster.Ordered next) {item : Instance}
    (hi : item.index = next) : (roster.push item).Ordered (next + 1) := by
  refine ⟨?_, fun index hm => ?_⟩
  · rw [indices_push, List.pairwise_append]
    refine ⟨h.increasing, List.pairwise_singleton _ _, fun index hm last hl => ?_⟩
    rw [List.mem_singleton.mp hl, hi]
    exact h.below index hm
  · rw [indices_push, List.mem_append, List.mem_singleton] at hm
    rcases hm with hm | rfl
    · exact Nat.lt_succ_of_lt (h.below index hm)
    · exact Nat.lt_succ_of_le (Nat.le_of_eq hi)

end Roster

namespace Bench

variable {σ : Type} {factory : Factory} {name : String} {bench left : Bench σ}

/-- Instances are added behind the others, and keep their indices. -/
theorem Step.indices [RecordStore σ] (h : Step factory bench left) :
    bench.roster.indices <+: left.roster.indices := by
  cases h with
  | mark roster hf hi => exact (Roster.indices_of_instances hi).symm ▸ List.prefix_rfl
  | spend => exact List.prefix_rfl
  | build => exact ⟨_, (Roster.indices_push ..).symm⟩
  | override position item overrides hi =>
    have hindex := item.index_override overrides bench.store
    exact (Roster.indices_setInstance hi hindex).symm ▸ List.prefix_rfl
  | save position item hi =>
    have hindex := item.index_save factory bench.store
    exact (Roster.indices_setInstance hi hindex).symm ▸ List.prefix_rfl

/-- The indices of the roster are in order below the counter of its factory. -/
def InOrder (name : String) (bench : Bench σ) : Prop :=
  bench.roster.Ordered (bench.counters.current name)

/-- There are instances, so indices were given out, and still the counter is at zero. -/
def Wrapped (name : String) (bench : Bench σ) : Prop :=
  bench.counters.current name = 0 ∧ bench.roster.instances ≠ []

instance (name : String) (bench : Bench σ) : Decidable (bench.Wrapped name) :=
  inferInstanceAs (Decidable (_ ∧ _))

/-- An index that is spent in vain has one behind it, or there are no instances, or it was the
last. -/
theorem room_or_wrapped (name : String) (bench : Bench σ) :
    bench.counters.current name + 1 < UInt64.size ∨ bench.roster.instances = [] ∨
      ({ bench with counters := bench.counters.advance name 1 } : Bench σ).Wrapped name := by
  have hlt := bench.counters.current_lt name
  by_cases hlast : bench.counters.current name + 1 = UInt64.size
  · by_cases hnil : bench.roster.instances = []
    · exact Or.inr (Or.inl hnil)
    · exact Or.inr (Or.inr ⟨(Counters.take_last hlast).2, hnil⟩)
  · exact Or.inl (by omega)

theorem InOrder.spend (h : bench.InOrder name) :
    let left : Bench σ := { bench with counters := bench.counters.advance name 1 }
    left.InOrder name ∨ left.Wrapped name := by
  rcases room_or_wrapped name bench with hroom | hnil | hwrapped
  · have hnext := Counters.current_advance_of_lt hroom
    exact Or.inl (h.of_indices rfl (hnext ▸ Nat.le_add_right _ 1))
  · exact Or.inl (Roster.ordered_of_instances_eq_nil hnil _)
  · exact Or.inr hwrapped

theorem InOrder.build (h : bench.InOrder factory.name) {attributes : AttributeMap}
    (ha : Counters.upcoming factory bench.counters = .ok attributes) {item : Instance}
    (hi : item.index = bench.counters.current factory.name) :
    ({ bench with
      counters := bench.counters.advance factory.name 1
      roster := bench.roster.push item } : Bench σ).InOrder factory.name := by
  unfold InOrder
  rw [Counters.current_advance_of_lt (Counters.upcoming_eq_ok_iff.mp ha).1]
  exact h.push hi

/-! ## Declarations -/

/-- A bench in order is left in order, or else by a failure with its counter back at zero. -/
def Orderly (factory : Factory) {α : Type} (operation : EStateM Error (Bench σ) α) : Prop :=
  ∀ bench, bench.InOrder factory.name →
    Ends (operation bench) (fun _ left => left.InOrder factory.name)
      fun _ left => left.InOrder factory.name ∨ left.Wrapped factory.name

namespace Orderly

theorem of_after {α : Type} {operation : EStateM Error (Bench σ) α}
    (h : ∀ bench, bench.InOrder factory.name → (after operation bench).InOrder factory.name) :
    Orderly factory operation := fun bench hb =>
  (Ends.of_after (h bench hb)).mono (fun _ _ hl => hl) fun _ _ hl => Or.inl hl

theorem onInstance {α : Type} {operation : EStateM Error (Instance × σ) α} (position : Nat)
    (h : ∀ item store, (after operation (item, store)).1.index = item.index) :
    Orderly factory (onRoster (Roster.onInstance position operation)) := by
  apply of_after
  intro bench hb
  cases hi : bench.roster.instance? position with
  | none =>
    rw [after_of_error (onInstance_of_none operation hi)]
    exact hb
  | some item =>
    rw [after_onInstance operation hi]
    exact hb.of_indices (Roster.indices_setInstance hi (h item bench.store)) (Nat.le_refl _)

theorem build (overrides : AttributeMap) :
    Orderly factory (Bench.build (σ := σ) factory overrides) := by
  intro bench hb
  rw [build_eq]
  cases ha : Counters.upcoming factory bench.counters with
  | error error => exact hb.spend
  | ok attributes => exact hb.build ha rfl

end Orderly

variable [RecordStore σ]

theorem orderly_compositional :
    Compositional (σ := σ) factory fun _ operation => Orderly factory operation where
  pure _ _ hb := hb
  bind hf hn bench hb := (hf bench hb).bind fun answer left hl => hn answer left hl
  read _ hn bench hb := hn bench bench hb
  override position overrides := Orderly.onInstance position fun item store => by
    rw [after_override_read]
    exact item.index_override overrides store
  save position := Orderly.onInstance position fun item store => item.index_save factory store
  build := Orderly.build
  mark hm := Orderly.of_after fun bench hb =>
    hb.of_indices (Roster.indices_of_instances (hm.instances bench.roster)) (Nat.le_refl _)

/-- Declarations keep the indices in order for as long as there are indices. -/
theorem orderly_declare (name : String) (form : Form) (arguments : Arguments) :
    Orderly factory (declare (σ := σ) factory name form arguments) :=
  orderly_compositional.declare (fun _ _ hb => Or.inl hb) name form arguments

end Bench

end Fixtures
