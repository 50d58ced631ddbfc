import Fixtures.Proofs.Block.Step
import Fixtures.Proofs.Roster.Counted

/-!
# Well-formed blocks

Every roster of a block has as many instances as it says, however the block came about: also after
failures that were caught half-way through a statement, and with a store that refuses what it likes
(`Block.wellFormed_kept`).  So a declaration finds an instance wherever it works
(`Block.declare_ends`).
-/

namespace Fixtures

theorem Roster.Counted.setInstance {roster : Roster} {position : Nat} {item : Instance}
    (h : roster.Counted) (hi : roster.instance? position = some item) (item' : Instance) :
    (roster.setInstance position item').Counted := by
  refine h.of_marks rfl (size_eq_of_isSome fun p => ?_)
  rw [instance?_setInstance hi]
  by_cases he : p = position
  · rw [if_pos he, he, hi]
    rfl
  · rw [if_neg he]

theorem Catalog.resolveName_error {catalog : Catalog} {settings : Settings} {name : String}
    {error : Error} (h : catalog.resolveName settings name = .error error) :
    error.isMissingAccessor = false := by
  unfold resolveName at h
  split at h
  · cases h
  · split at h
    · cases h
    · cases h
      rfl

theorem Catalog.factory_error {catalog : Catalog} {name : String} {error : Error}
    (h : catalog.factory name = .error error) : error.isMissingAccessor = false := by
  unfold factory at h
  split at h <;> cases h
  rfl

namespace Block

variable {σ : Type} {block : Block σ}

/-- Every roster has the instances that its marks speak of. -/
def WellFormed (block : Block σ) : Prop :=
  ∀ name roster, block.rosters.get? name = some roster → roster.Counted

theorem start_wellFormed (workshop : Workshop) (store : σ) :
    (start workshop store).WellFormed := by
  intro name roster hr
  cases hr

theorem WellFormed.bench (hw : block.WellFormed) (name : String) :
    (block.bench name).roster.Counted := by
  show ((block.rosters.get? name).getD { factory := name }).Counted
  cases hr : block.rosters.get? name with
  | none => exact Roster.counted_empty name
  | some roster => exact hw name roster hr

theorem WellFormed.insert (hw : block.WellFormed) {left : Block σ} {name : String}
    {roster : Roster} (hl : left.rosters = block.rosters.insert name roster)
    (hr : roster.Counted) : left.WellFormed := by
  intro other found hf
  rw [hl, SortedMap.get?_insert] at hf
  split at hf
  · cases hf
    exact hr
  · exact hw other found hf

variable [RecordStore σ]

/-- A declaration keeps the rosters well-formed, and if it fails, then not for want of an
instance at a position. -/
theorem declare_ends (name : String) (arguments : Arguments) (hw : block.WellFormed) :
    Ends (declare name arguments block) (fun _ left => left.WellFormed)
      (fun error left => left.WellFormed ∧ error.isMissingAccessor = false) := by
  rw [declare_eq]
  cases hr : block.workshop.resolveName name with
  | error error => exact ⟨hw, Catalog.resolveName_error hr⟩
  | ok resolved =>
    dsimp only
    cases hf : block.workshop.catalog.factory resolved.1 with
    | error error => exact ⟨hw, Catalog.factory_error hf⟩
    | ok factory =>
      have hk : Bench.Keeps (Bench.declare factory name resolved.2 arguments)
          (block.bench resolved.1) :=
        Bench.keeps_declare name resolved.2 arguments (hw.bench resolved.1)
      unfold Bench.Keeps at hk
      dsimp only
      cases hd : Bench.declare factory name resolved.2 arguments (block.bench resolved.1) with
      | ok positions bench =>
        rw [hd] at hk
        exact hw.insert rfl hk
      | error error bench =>
        rw [hd] at hk
        exact ⟨hw.insert rfl hk.1, hk.2⟩

theorem LinkStep.wellFormed {block block' : Block σ} (h : LinkStep block block')
    (hw : block.WellFormed) : block'.WellFormed := by
  cases h with
  | key field id hr hi => exact hw.insert rfl ((hw _ _ hr).setInstance hi _)
  | join => exact hw

theorem wellFormed_kept : Kept (WellFormed (σ := σ)) where
  declare name arguments _ hw :=
    (Ends.mono (declare_ends name arguments hw) (fun _ _ h => h) (fun _ _ h => h.1)).after
  link _ _ hs := hs.wellFormed
  catalog _ _ hw := hw

end Block

end Fixtures
