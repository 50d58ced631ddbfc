import Fixtures.Proofs.Roster.Positions

/-!
# Counted rosters

Three marks of a roster say how far its instances are spoken for: the singleton and the two
numbers of claimed positions.  There are as many instances as the marks need, never more, also
after a declaration that failed half-way (`Bench.keeps_declare`), so a position that a declaration
works on always has an instance.
-/

namespace Fixtures

/-- The marks of a roster, and that its size is what the marks need. -/
structure Roster.Counted (roster : Roster) : Prop where
  singleton : ∀ position, roster.singleton = some position → position = 0
  size : roster.size =
    max (max roster.recordsClaimed roster.hashesClaimed) (if roster.hasSingleton then 1 else 0)

namespace Roster

variable {roster roster' : Roster}

theorem counted_empty (factory : String) : Counted { factory } := ⟨nofun, rfl⟩

namespace Counted

/-- Claims are within the instances. -/
theorem claimed_le (h : roster.Counted) (saved : Bool) : roster.claimed saved ≤ roster.size := by
  have hs := h.size
  cases saved with
  | false =>
    show roster.hashesClaimed ≤ roster.size
    omega
  | true =>
    show roster.recordsClaimed ≤ roster.size
    omega

/-- The position at which the singleton is, or would be, declared, where that is clear. -/
theorem singleton_getD (h : roster.Counted) : roster.singleton.getD 0 = 0 := by
  cases hs : roster.singleton with
  | none => rfl
  | some position => exact h.singleton position hs

theorem of_marks (h : roster.Counted)
    (hm : roster' = { roster with instances := roster'.instances })
    (hs : roster'.size = roster.size) : roster'.Counted := by
  refine ⟨?_, ?_⟩
  · rw [hm]
    exact h.singleton
  · rw [hs, hm]
    exact h.size

theorem withSingleton (h : roster.Counted)
    (hm : roster' = { roster with instances := roster'.instances })
    (hs : roster'.size = max roster.size 1)
    (hu : ¬(roster.singleton = none ∧ 2 ≤ roster.size)) :
    Counted { roster' with singleton := some 0 } := by
  refine ⟨fun position hp => (Option.some.inj hp).symm, ?_⟩
  show roster'.size = max (max roster'.recordsClaimed roster'.hashesClaimed) 1
  have hsize := h.size
  have hr : roster'.recordsClaimed = roster.recordsClaimed := by rw [hm]
  have hh : roster'.hashesClaimed = roster.hashesClaimed := by rw [hm]
  unfold hasSingleton at hsize
  cases hsing : roster.singleton with
  | none =>
    rw [hsing] at hsize hu
    -- A singleton that is new is the first instance or the only one.
    have hlt : ¬2 ≤ roster.size := fun h2 => hu ⟨rfl, h2⟩
    rw [Option.isSome_none, if_neg Bool.false_ne_true] at hsize
    omega
  | some position =>
    rw [hsing, Option.isSome_some, if_pos rfl] at hsize
    omega

theorem withClaimed (h : roster.Counted) {saved : Bool} {position : Nat}
    (hp : position = roster.claimed saved)
    (hm : roster' = { roster with instances := roster'.instances })
    (hs : roster'.size = max roster.size (position + 1)) :
    (roster'.withClaimed saved (position + 1)).Counted := by
  have hsize := h.size
  have hr : roster'.recordsClaimed = roster.recordsClaimed := by rw [hm]
  have hh : roster'.hashesClaimed = roster.hashesClaimed := by rw [hm]
  have hg : roster'.singleton = roster.singleton := by rw [hm]
  have hb : roster'.hasSingleton = roster.hasSingleton := by unfold hasSingleton; rw [hg]
  rw [← hb] at hsize
  cases saved with
  | true =>
    change position = roster.recordsClaimed at hp
    refine ⟨fun p hp => h.singleton p (hg ▸ hp), ?_⟩
    show roster'.size = max (max (position + 1) roster'.hashesClaimed)
      (if roster'.hasSingleton then 1 else 0)
    omega
  | false =>
    change position = roster.hashesClaimed at hp
    refine ⟨fun p hp => h.singleton p (hg ▸ hp), ?_⟩
    show roster'.size = max (max roster'.recordsClaimed (position + 1))
      (if roster'.hasSingleton then 1 else 0)
    omega

end Counted

end Roster

namespace Bench

variable {σ : Type} {factory : Factory} {bench left : Bench σ} {position : Nat}

variable [RecordStore σ]

/-! ## Declarations -/

/-- A counted roster is left, and a failure is not that of a position without instance. -/
def Keeps {α : Type} (operation : EStateM Error (Bench σ) α) (bench : Bench σ) : Prop :=
  Ends (operation bench) (fun _ left => left.roster.Counted)
    (fun error left => left.roster.Counted ∧ error.isMissingAccessor = false)

/-- Work on one position keeps the roster counted if the mark accounts for the position. -/
theorem keeps_touch {α : Type} {mark : Roster → Roster} {next : EStateM Error (Bench σ) α}
    (overrides : Option AttributeMap) (saved : Bool) (hw : bench.roster.Counted)
    (hp : position ≤ bench.roster.size)
    (hm : ∀ roster, (mark roster).instances = roster.instances)
    (hc : ∀ middle item, Prepared factory position bench middle item →
      (mark middle.roster).Counted)
    (hnext : ∀ middle left : Bench σ, left.roster.Counted →
      Retains { middle with roster := mark middle.roster } left →
        Keeps next left) :
    Keeps (do
      prepare factory position overrides
      modifyRoster mark
      saveIf saved factory position
      next) bench := by
  unfold Keeps
  apply touch_ends overrides saved hp hm
  · intro error left hr he
    exact ⟨hw.of_marks hr.marks hr.size, he⟩
  · intro middle item hpr error left hr he
    exact ⟨(hc middle item hpr).of_marks hr.marks hr.size, he⟩
  · intro middle item left item' hpr hs
    have hr : Retains { middle with roster := mark middle.roster } left :=
      hs.puts.retains (hpr.instance? (hm middle.roster)) hs.index
    exact hnext middle left ((hc middle item hpr).of_marks hr.marks hr.size) hr

theorem keeps_declareSingleton (overrides : Option AttributeMap) (saved : Bool)
    (hw : bench.roster.Counted) :
    Keeps (declareSingleton factory overrides saved) bench := by
  have h0 := hw.singleton_getD
  unfold Keeps
  show Ends ((if bench.roster.singleton = none ∧ 2 ≤ bench.roster.size then _ else _ :
    EStateM Error (Bench σ) Nat) bench) _ _
  by_cases hu : bench.roster.singleton = none ∧ 2 ≤ bench.roster.size
  · rw [if_pos hu]
    exact ⟨hw, rfl⟩
  · have hm : ∀ roster : Roster,
        ({ roster with singleton := some 0 } : Roster).instances = roster.instances := fun _ => rfl
    rw [if_neg hu, h0]
    apply keeps_touch overrides saved hw (Nat.zero_le _) hm
    · intro middle item hp
      exact hw.withSingleton hp.puts.marks (hp.puts.size (Nat.zero_le _)) hu
    · intro middle left hl _
      exact hl

theorem claimed_withClaimed (roster : Roster) (saved : Bool) (count : Nat) :
    (roster.withClaimed saved count).claimed saved = count := by
  cases saved <;> rfl

theorem keeps_claimFrom (saved : Bool) (overrides : List (Option AttributeMap))
    (hw : bench.roster.Counted) (hp : position = bench.roster.claimed saved) :
    Keeps (claimFrom factory saved position overrides) bench := by
  induction overrides generalizing bench position with
  | nil => exact hw
  | cons overrides rest ih =>
    have hle : position ≤ bench.roster.size := hp ▸ hw.claimed_le saved
    unfold claimFrom
    apply keeps_touch overrides saved hw hle
      (fun roster => withClaimed_instances roster saved (position + 1))
    · intro middle item hpr
      exact hw.withClaimed hp hpr.puts.marks (hpr.puts.size hle)
    · -- The next position is the one after this, whether it was saved or not.
      intro middle left hl hr
      apply ih hl
      rw [hr.marks]
      exact (claimed_withClaimed middle.roster saved (position + 1)).symm

theorem keeps_declareCollection (overrides : List (Option AttributeMap)) (saved : Bool)
    (hw : bench.roster.Counted) :
    Keeps (declareCollection factory overrides saved) bench := by
  have hm : ({ bench.roster with hasCollection := true } : Roster).Counted :=
    ⟨hw.singleton, hw.size⟩
  have hp : bench.roster.claimed saved =
      ({ bench.roster with hasCollection := true } : Roster).claimed saved := by
    cases saved <;> rfl
  show Ends ((claimFrom factory saved (bench.roster.claimed saved) overrides >>= _)
    { bench with roster := { bench.roster with hasCollection := true } }) _ _
  exact Ends.bind (keeps_claimFrom saved overrides hm hp) fun _ _ h => h

/-- A declaration leaves a counted roster whatever it ends in, and it never looks at a
position that has no instance. -/
theorem keeps_declare (name : String) (form : Form) (arguments : Arguments)
    (hw : bench.roster.Counted) :
    Keeps (declare factory name form arguments) bench := by
  -- The cases are those of `declare`: two singletons, two faults, and three collections.
  unfold declare
  dsimp only
  split
  · exact Ends.bind (keeps_declareSingleton none _ hw) fun _ _ h => h
  · exact Ends.bind (keeps_declareSingleton (some _) _ hw) fun _ _ h => h
  · exact ⟨hw, rfl⟩
  · exact ⟨hw, rfl⟩
  · exact ⟨hw.singleton, hw.size⟩
  · exact keeps_declareCollection _ _ hw
  · exact keeps_declareCollection _ _ hw

end Bench

end Fixtures
