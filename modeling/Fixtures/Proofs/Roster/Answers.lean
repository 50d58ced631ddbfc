import Fixtures.Proofs.Roster.Counted

/-!
# What a declaration answers

The positions that a successful declaration answers all have an instance when it is done, and each
of these is saved if the form asks for records (`Bench.answers_declare`).  Claiming goes on from one
position to the next, and never comes back to one that it has left.
-/

namespace Fixtures

/-- Whether a declaration saves what it stands for.  A hash form does not, and the collection
without arguments stands for what there is. -/
def Form.saves (form : Form) : Arguments → Bool
  | .none => !form.isHash && !form.isCollection
  | .count _ | .overrides _ => !form.isHash

/-- There is an instance at the position, and it is saved if it has to be. -/
def Roster.Has (roster : Roster) (saved : Bool) (position : Nat) : Prop :=
  ∃ item, roster.instance? position = some item ∧ (saved = true → item.isPersisted = true)

namespace Bench

variable {σ : Type} {factory : Factory} {bench left : Bench σ} {position : Nat} {saved : Bool}

/-- If the operation succeeds, every position that it answers has an instance as it has to be. -/
def Answers (saved : Bool) (operation : EStateM Error (Bench σ) (List Nat)) (bench : Bench σ) :
    Prop :=
  Ends (operation bench) (fun positions left => ∀ p ∈ positions, left.roster.Has saved p)
    fun _ _ => True

theorem answers_referToCollection (bench : Bench σ) : Answers false referToCollection bench := by
  show ∀ p ∈ List.range bench.roster.size,
    ({ bench.roster with hasCollection := true } : Roster).Has false p
  intro p hp
  obtain ⟨item, hi⟩ := Option.isSome_iff_exists.mp (Roster.lt_size_iff.mp (List.mem_range.mp hp))
  exact ⟨item, hi, nofun⟩

variable [RecordStore σ]

theorem SavedAt.has {item item' : Instance}
    (h : SavedAt saved factory position bench left item item') :
    left.roster.Has saved position := by
  have hi := h.puts.instances position
  rw [if_pos rfl] at hi
  exact ⟨item', hi, fun hs => (h.saved hs).isPersisted⟩

/-- The positions from one on have been claimed, and those before it were left alone. -/
structure Claims (saved : Bool) (bench left : Bench σ) (position count : Nat) : Prop where
  before : ∀ p, p < position → left.roster.instance? p = bench.roster.instance? p
  claimed : ∀ p, position ≤ p → p < position + count → left.roster.Has saved p

theorem claimFrom_claims (overrides : List (Option AttributeMap))
    (hp : position ≤ bench.roster.size) :
    Ends (claimFrom factory saved position overrides bench)
      (fun _ left => Claims saved bench left position overrides.length) fun _ _ => True := by
  induction overrides generalizing bench position with
  | nil => exact ⟨fun _ _ => rfl, fun p hle hlt => absurd hle (Nat.not_le_of_lt hlt)⟩
  | cons overrides rest ih =>
    have hm : ∀ roster : Roster, (roster.withClaimed saved (position + 1)).instances =
        roster.instances := fun roster => withClaimed_instances roster saved (position + 1)
    unfold claimFrom
    apply touch_ends overrides saved hp hm (fun _ _ _ _ => trivial) fun _ _ _ _ _ _ _ => trivial
    intro middle item left item' hpr hs
    have hi := hpr.instance?_saved hs (hm middle.roster)
    have hsize := hpr.size_saved hp hs (hm middle.roster)
    apply Ends.mono (ih (by omega)) _ fun _ _ _ => trivial
    intro _ last hc
    refine ⟨fun p hlt => ?_, fun p hle hlt => ?_⟩
    · rw [hc.before p (by omega), hi, if_neg (by omega)]
    · by_cases he : p = position
      -- What was done at this position is still there after the rest was claimed.
      · obtain ⟨found, hf, hsaved⟩ := hs.has
        rw [he]
        exact ⟨found, (hc.before position (by omega)).trans hf, hsaved⟩
      · rw [List.length_cons] at hlt
        exact hc.claimed p (by omega) (by omega)

theorem declareSingleton_has (overrides : Option AttributeMap) (hw : bench.roster.Counted) :
    Ends (declareSingleton factory overrides saved bench)
      (fun position left => left.roster.Has saved position) fun _ _ => True := by
  have h0 := hw.singleton_getD
  show Ends ((if bench.roster.singleton = none ∧ 2 ≤ bench.roster.size then _ else _ :
    EStateM Error (Bench σ) Nat) bench) _ _
  by_cases hu : bench.roster.singleton = none ∧ 2 ≤ bench.roster.size
  · rw [if_pos hu]
    trivial
  · have hm : ∀ roster : Roster,
        ({ roster with singleton := some 0 } : Roster).instances = roster.instances := fun _ => rfl
    rw [if_neg hu, h0]
    apply touch_ends overrides saved (Nat.zero_le _) hm (fun _ _ _ _ => trivial)
      fun _ _ _ _ _ _ _ => trivial
    intro middle item left item' _ hs
    exact hs.has

theorem answers_declareCollection (overrides : List (Option AttributeMap))
    (hw : bench.roster.Counted) :
    Answers saved (declareCollection factory overrides saved) bench := by
  show Ends ((claimFrom factory saved (bench.roster.claimed saved) overrides >>= fun _ =>
      pure (List.range' (bench.roster.claimed saved) overrides.length) :
        EStateM Error (Bench σ) (List Nat))
    { bench with roster := { bench.roster with hasCollection := true } }) _ _
  have hle : bench.roster.claimed saved ≤
      ({ bench with
        roster := { bench.roster with hasCollection := true } } : Bench σ).roster.size :=
    hw.claimed_le saved
  apply Ends.bind (claimFrom_claims overrides hle)
  intro _ left hc p hp
  have hr := List.mem_range'_1.mp hp
  exact hc.claimed p hr.1 hr.2

/-- Every position that a declaration answers has an instance, a saved one where the declaration
saves. -/
theorem answers_declare (name : String) (form : Form) (arguments : Arguments)
    (hw : bench.roster.Counted) :
    Answers (form.saves arguments) (declare factory name form arguments) bench := by
  have hone : ∀ overrides, form.saves arguments = !form.isHash →
      Answers (form.saves arguments)
        (do return [← declareSingleton factory overrides !form.isHash]) bench := by
    intro overrides hs
    apply Ends.bind (declareSingleton_has overrides hw)
    intro position left hh p hp
    rw [List.mem_singleton.mp hp, hs]
    exact hh
  -- The cases are those of `declare`: two singletons, two faults, and three collections.
  unfold declare
  dsimp only
  split
  · rename_i hf
    exact hone none (by unfold Form.saves; rw [hf, Bool.not_false, Bool.and_true])
  · exact hone (some _) rfl
  · trivial
  · trivial
  · rename_i hf
    have hs : form.saves .none = false := by
      unfold Form.saves
      rw [hf, Bool.not_true, Bool.and_false]
    rw [hs]
    exact answers_referToCollection bench
  · exact answers_declareCollection _ hw
  · exact answers_declareCollection _ hw

end Bench

end Fixtures
