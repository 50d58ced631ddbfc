import Fixtures.Proofs.Block.WellFormed
import Fixtures.Proofs.Roster.Order
import Fixtures.Store.Database

/-!
# The order of instances

Instances are added behind the others and stay where they are, so their order is that of their
creation (`Block.indices_performAll`).  Their indices are in the same order as long as the counter
does not come back to zero, which is what a declaration leaves that finds it at the last word, and
there is nothing else that brings them out of order (`Block.performAll_inOrder`).
-/

namespace Fixtures

namespace Block

variable {σ : Type} {block left : Block σ} {name : String}

theorem start_inOrder (workshop : Workshop) (store : σ) (name : String) :
    ((start workshop store).bench name).InOrder name :=
  Roster.ordered_of_instances_eq_nil rfl _

variable [RecordStore σ]

/-- The keys that a link gives leave the indices. -/
theorem LinkStep.indices (h : LinkStep block left) (name : String) :
    (left.bench name).roster.indices = (block.bench name).roster.indices := by
  cases h with
  | @key other roster position item field id hr hi =>
    rw [withInstance_eq_setBench hr]
    by_cases hn : name = other
    · have hindex := item.index_revise (SortedMap.insert ∅ field (.int id)) block.store
      rw [hn, bench_setBench]
      exact Roster.indices_setInstance (bench_roster_of_some hr ▸ hi) hindex
    · rw [bench_setBench_of_ne _ _ hn]
  | join => rfl

/-! ## Order of creation -/

theorem Step.indices (h : Step block left) (name : String) :
    (block.bench name).roster.indices <+: (left.bench name).roster.indices := by
  cases h with
  | @declare other factory bench hf hs =>
    by_cases hn : name = other
    · rw [hn, bench_setBench]
      exact hs.indices
    · exact (bench_setBench_of_ne block bench hn).symm ▸ List.prefix_rfl
  | link hl => exact (hl.indices name).symm ▸ List.prefix_rfl

/-- What there is after the beginning of a run stands first after more of it. -/
theorem indices_performAll {before attempts : List Attempt} (h : before <+: attempts)
    (block : Block σ) (name : String) :
    ((after (performAll before) block).bench name).roster.indices <+:
      ((after (performAll attempts) block).bench name).roster.indices := by
  obtain ⟨rest, rfl⟩ := h
  have happend := performAll_append before rest block
  cases hb : performAll before block with
  | ok answer middle =>
    rw [bind_of_ok hb] at happend
    rw [after_of_ok hb]
    unfold after
    rw [happend]
    exact performAll_steps (P := fun left =>
        (middle.bench name).roster.indices <+: (left.bench name).roster.indices)
      (fun _ _ hs hp => hp.trans (hs.indices name)) (fun _ _ _ hp => hp) List.prefix_rfl
  | error error left =>
    rw [bind_of_error hb] at happend
    have hsame : after (performAll (before ++ rest)) block = after (performAll before) block :=
      (after_of_error happend).trans (after_of_error hb).symm
    exact hsame.symm ▸ List.prefix_rfl

/-! ## Order of the indices -/

/-- A factory's bench in order is left in order, or else by a failure with its counter back at
zero. -/
def Orderly (name : String) {α : Type} (operation : EStateM Error (Block σ) α) : Prop :=
  ∀ block, (block.bench name).InOrder name →
    Ends (operation block) (fun _ left => (left.bench name).InOrder name)
      fun _ left => (left.bench name).InOrder name ∨ (left.bench name).Wrapped name

namespace Orderly

omit [RecordStore σ] in
theorem of_after {α : Type} {operation : EStateM Error (Block σ) α}
    (h : ∀ block, (block.bench name).InOrder name →
      ((after operation block).bench name).InOrder name) : Orderly name operation :=
  fun block hb => (Ends.of_after (P := fun left => (left.bench name).InOrder name)
    (h block hb)).mono (fun _ _ hl => hl) fun _ _ hl => Or.inl hl

theorem of_moves {α : Type} {operation : EStateM Error (Block σ) α}
    (h : Moves LinkStep operation) : Orderly name operation := by
  apply of_after
  intro block hb
  refine Moves.keeps (P := fun left => (left.bench name).InOrder name) (h.mono ?_) hb
  intro middle left hs hm
  apply hm.of_indices (hs.indices name)
  show middle.workshop.counters.current name ≤ left.workshop.counters.current name
  rw [hs.workshop]

theorem declare (statement : String) (arguments : Arguments) :
    Orderly name (Block.declare (σ := σ) statement arguments) := by
  intro block hb
  by_cases hn : ∃ form, block.workshop.resolveName statement = .ok (name, form)
  · obtain ⟨form, hr⟩ := hn
    obtain ⟨factory, hf⟩ := Catalog.factory?_of_resolveName hr
    have hname : factory.name = name := block.workshop.catalog.name_of_factory _ _ hf
    have ho : Bench.Orderly factory (Bench.declare (σ := σ) factory statement form arguments) :=
      Bench.orderly_declare statement form arguments
    have hd := ho (block.bench name) (hname.symm ▸ hb)
    rw [hname] at hd
    exact declare_ends_of_bench hr hf arguments hd
  · have hne : ∀ form, block.workshop.resolveName statement ≠ .ok (name, form) := fun form hr =>
      hn ⟨form, hr⟩
    obtain ⟨hcounter, hroster⟩ := declare_of_ne arguments hne
    have ha : ((after (Block.declare statement arguments) block).bench name).InOrder name := by
      refine hb.of_indices ?_ (Nat.le_of_eq hcounter.symm)
      unfold Block.bench
      rw [hroster]
    exact (Ends.of_after (P := fun left => (left.bench name).InOrder name) ha).mono
      (fun _ _ hl => hl) fun _ _ hl => Or.inl hl

end Orderly

theorem orderly_compositional (name : String) :
    Compositional (σ := σ) fun _ operation => Orderly name operation where
  pure _ _ hb := hb
  bind hf hn block hb := (hf block hb).bind fun answer left hl => hn answer left hl
  read _ hn block hb := hn block block hb
  answer result block hb := by
    cases result with
    | ok answer => exact hb
    | error error => exact Or.inl hb
  linkedId link other position := Orderly.of_moves (moves_linkedId link other position)
  key other position field id := Orderly.of_moves (moves_revise other position field id)
  join model attributes := Orderly.of_moves (moves_insertRecord model attributes)

theorem orderly_perform (name : String) (statement : Statement) :
    Orderly name (perform (σ := σ) statement) :=
  (orderly_compositional name).perform Orderly.declare (Orderly.of_after fun _ hb => hb)

/-- The indices stay in order through a run in which the counter is nowhere back at zero. -/
theorem inOrder_performAll {attempts : List Attempt} (hb : (block.bench name).InOrder name)
    (hw : ∀ before, before <+: attempts →
      ¬((after (performAll before) block).bench name).Wrapped name) :
    ((after (performAll attempts) block).bench name).InOrder name := by
  refine performAll_unless (P := fun block => (block.bench name).InOrder name)
    (Q := fun block => (block.bench name).Wrapped name) ?_ hw hb
  intro _ attempt _ middle _ _ hm
  exact Ends.after
    (P := fun left => (left.bench name).InOrder name ∨ (left.bench name).Wrapped name)
    ((orderly_perform name attempt.statement middle hm).mono (fun _ _ hl => Or.inl hl)
      fun _ _ hl => hl)

end Block

end Fixtures
