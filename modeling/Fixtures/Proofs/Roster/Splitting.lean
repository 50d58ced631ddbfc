import Fixtures.Proofs.Roster.Tally

/-!
# Collections declared in parts

A declaration of a collection claims its positions one by one, and its claim of each is made before
the next one is looked at.  So a further declaration starts where an earlier one has come to, and a
declaration is the same as two that share its elements out between them
(`Bench.declareCollection_append`).  What a declaration leaves that fails is therefore left by two:
one of the elements that came first, which succeeds, and one of the element that fails
(`Bench.declareCollection_eq_error`).
-/

namespace Fixtures

namespace Bench

variable {σ : Type} [RecordStore σ] {factory : Factory} {position : Nat} {bench left : Bench σ}

/-- A declaration that succeeds has claimed a position for each of its elements. -/
theorem claimFrom_claimed {saved : Bool} {overrides : List (Option AttributeMap)}
    (h : claimFrom factory saved position overrides bench = .ok () left)
    (hp : bench.roster.claimed saved = position) :
    left.roster.claimed saved = position + overrides.length ∧
      left.roster.hasCollection = bench.roster.hasCollection := by
  induction overrides generalizing position bench with
  | nil =>
    cases h
    exact ⟨hp, rfl⟩
  | cons overrides rest ih =>
    obtain ⟨_, prepared, hprepare, hn⟩ := bind_eq_ok_iff.mp h
    change (saveIf saved factory position >>= fun _ => claimFrom factory saved (position + 1) rest)
      { prepared with roster := prepared.roster.withClaimed saved (position + 1) } = _ at hn
    obtain ⟨_, saved', hsave, hrest⟩ := bind_eq_ok_iff.mp hn
    have hprepared := marks_prepare factory position overrides bench
    have hsaved := (framed_saveIf saved factory position { prepared with
      roster := prepared.roster.withClaimed saved (position + 1) }).marks
    rw [after_of_ok hprepare] at hprepared
    rw [after_of_ok hsave] at hsaved
    have hclaimed : saved'.roster.claimed saved = position + 1 := by
      rw [← Roster.marks_claimed, hsaved]
      exact claimed_withClaimed prepared.roster saved (position + 1)
    have hcollection : saved'.roster.hasCollection = bench.roster.hasCollection := by
      rw [← Roster.marks_hasCollection, hsaved, ← Roster.marks_hasCollection bench.roster,
        ← hprepared]
      cases saved <;> rfl
    obtain ⟨hc, hh⟩ := ih hrest hclaimed
    refine ⟨?_, hh.trans hcollection⟩
    rw [hc, List.length_cons]
    omega

theorem claimFrom_append (factory : Factory) (saved : Bool) (position : Nat)
    (first rest : List (Option AttributeMap)) :
    claimFrom (σ := σ) factory saved position (first ++ rest) =
      claimFrom factory saved position first >>= fun _ =>
        claimFrom factory saved (position + first.length) rest := by
  induction first generalizing position with
  | nil => rfl
  | cons overrides first ih =>
    have hlength : position + (overrides :: first).length = position + 1 + first.length := by
      rw [List.length_cons]
      omega
    rw [List.cons_append, hlength]
    show (prepare factory position overrides >>= fun _ => _) =
      (prepare factory position overrides >>= fun _ => _) >>= fun _ => _
    simp only [ih (position + 1), bind_assoc]

/-- Two declarations in turn claim what one declares of both lists. -/
theorem declareCollection_append (factory : Factory) (first rest : List (Option AttributeMap))
    (saved : Bool) (bench : Bench σ) :
    declareCollection factory (first ++ rest) saved bench =
      (declareCollection factory first saved >>= fun positions =>
        declareCollection factory rest saved >>= fun positions' =>
          pure (positions ++ positions')) bench := by
  have hdeclare : ∀ (overrides : List (Option AttributeMap)) (bench : Bench σ),
      declareCollection factory overrides saved bench =
        (claimFrom factory saved (bench.roster.claimed saved) overrides >>= fun _ =>
          pure (List.range' (bench.roster.claimed saved) overrides.length))
            { bench with roster := { bench.roster with hasCollection := true } } :=
    fun _ _ => rfl
  have hmark := hdeclare first bench
  rw [hdeclare (first ++ rest), claimFrom_append]
  have hp : ({ bench.roster with hasCollection := true } : Roster).claimed saved =
      bench.roster.claimed saved := rfl
  cases hfirst : claimFrom factory saved (bench.roster.claimed saved) first
      { bench with roster := { bench.roster with hasCollection := true } } with
  | error error left =>
    rw [bind_of_error hfirst] at hmark
    rw [bind_of_error hmark, bind_of_error (bind_of_error hfirst)]
  | ok answer middle =>
    rw [bind_of_ok hfirst] at hmark
    rw [bind_of_ok hmark]
    obtain ⟨hclaimed, hcollection⟩ := claimFrom_claimed hfirst hp
    have hmiddle : ({ middle with roster := { middle.roster with hasCollection := true } } :
        Bench σ) = middle := by
      obtain ⟨⟨_, _, _, _, _, _⟩, _, _⟩ := middle
      cases hcollection
      rfl
    have hsecond := hdeclare rest middle
    rw [hmiddle, hclaimed] at hsecond
    rw [List.length_append, ← List.range'_append_1]
    cases hrest : claimFrom factory saved (bench.roster.claimed saved + first.length) rest
        middle with
    | error error left =>
      rw [bind_of_error hrest] at hsecond
      rw [bind_of_error ((bind_of_ok hfirst).trans hrest)]
      exact (bind_of_error hsecond).symm
    | ok answer left =>
      rw [bind_of_ok hrest] at hsecond
      rw [bind_of_ok ((bind_of_ok hfirst).trans hrest)]
      rw [bind_of_ok hsecond]

/-- A declaration fails at one of its elements, and what it leaves is left by that element alone
after a declaration of those before it. -/
theorem declareCollection_eq_error {overrides : List (Option AttributeMap)} {saved : Bool}
    {error : Error} (h : declareCollection factory overrides saved bench = .error error left) :
    ∃ first element rest positions middle, overrides = first ++ element :: rest ∧
      declareCollection factory first saved bench = .ok positions middle ∧
      declareCollection factory [element] saved middle = .error error left := by
  induction overrides generalizing bench with
  | nil => cases h
  | cons element rest ih =>
    rw [← List.singleton_append, declareCollection_append] at h
    rcases bind_eq_error_iff.mp h with h | ⟨positions, middle, helement, h⟩
    · -- A declaration without elements comes before, and notes that the collection was declared.
      obtain ⟨positions, middle, hnone⟩ :
          ∃ positions middle, declareCollection factory [] saved bench = .ok positions middle :=
        ⟨_, _, rfl⟩
      refine ⟨[], element, rest, positions, middle, rfl, hnone, ?_⟩
      rw [← List.nil_append [element], declareCollection_append, bind_of_ok hnone] at h
      rcases bind_eq_error_iff.mp h with h | ⟨_, _, _, h⟩
      · exact h
      · cases h
    · rcases bind_eq_error_iff.mp h with h | ⟨_, _, _, h⟩
      · obtain ⟨first, failing, others, positions', middle', rfl, hfirst, hfails⟩ := ih h
        refine ⟨element :: first, failing, others, positions ++ positions', middle', rfl, ?_,
          hfails⟩
        rw [← List.singleton_append, declareCollection_append, bind_of_ok helement,
          bind_of_ok hfirst]
        rfl
      · cases h

end Bench

/-! ## Arguments in parts -/

/-- What arguments give to each element of a collection. -/
def Arguments.elements : Arguments → List (Option AttributeMap)
  | .none => []
  | .count number => List.replicate number Option.none
  | .overrides maps => maps.map some

namespace Arguments

/-- The arguments ask for as much as two others together, and give each element the same. -/
inductive Splits : Arguments → Arguments → Arguments → Prop
  | count (first rest : Nat) : Splits (.count (first + rest)) (.count first) (.count rest)
  | overrides (first rest : List AttributeMap) :
      Splits (.overrides (first ++ rest)) (.overrides first) (.overrides rest)

variable {whole first rest : Arguments}

theorem length_elements (arguments : Arguments) : arguments.elements.length = arguments.asked := by
  cases arguments with
  | none => rfl
  | count number => exact List.length_replicate ..
  | overrides maps => exact List.length_map ..

theorem Splits.elements (h : whole.Splits first rest) :
    whole.elements = first.elements ++ rest.elements := by
  cases h with
  | count first rest => exact List.replicate_append_replicate.symm
  | overrides first rest => exact List.map_append ..

theorem splits_of_elements {before behind : List (Option AttributeMap)} (hn : whole ≠ .none)
    (h : whole.elements = before ++ behind) :
    ∃ first rest, whole.Splits first rest ∧ first.elements = before ∧ rest.elements = behind := by
  cases whole with
  | none => exact absurd rfl hn
  | count number =>
    obtain ⟨hlength, hbefore, hbehind⟩ := List.replicate_eq_append_iff.mp h
    refine ⟨.count before.length, .count behind.length, ?_, hbefore.symm, hbehind.symm⟩
    rw [← hlength]
    exact Splits.count ..
  | overrides maps =>
    obtain ⟨first, rest, rfl, hbefore, hbehind⟩ := List.map_eq_append_iff.mp h
    exact ⟨.overrides first, .overrides rest, Splits.overrides first rest, hbefore, hbehind⟩

end Arguments

namespace Bench

variable {σ : Type} [RecordStore σ] {factory : Factory} {bench left : Bench σ} {name : String}
  {form : Form} {whole first rest : Arguments}

theorem declare_of_elements (hf : form.isCollection = true) (hn : whole ≠ .none) :
    declare (σ := σ) factory name form whole =
      declareCollection factory whole.elements (!form.isHash) := by
  unfold declare
  rw [hf]
  cases whole with
  | none => exact absurd rfl hn
  | count | overrides => rfl

/-- A statement of the collection is two statements for the parts of its arguments. -/
theorem declare_of_splits (hf : form.isCollection = true) (h : whole.Splits first rest) :
    declare factory name form whole bench =
      (declare factory name form first >>= fun positions =>
        declare factory name form rest >>= fun positions' =>
          pure (positions ++ positions')) bench := by
  have hnone : whole ≠ .none ∧ first ≠ .none ∧ rest ≠ .none := by
    cases h <;> exact ⟨nofun, nofun, nofun⟩
  rw [declare_of_elements hf hnone.1, declare_of_elements hf hnone.2.1,
    declare_of_elements hf hnone.2.2, h.elements, declareCollection_append]

theorem declare_eq_error_of_collection (hf : form.isCollection = true) {error : Error}
    (h : declare factory name form whole bench = .error error left) :
    ∃ first tail element rest positions middle,
      whole.Splits first tail ∧ tail.Splits element rest ∧ element.asked = 1 ∧
      declare factory name form first bench = .ok positions middle ∧
      declare factory name form element middle = .error error left := by
  have hn : whole ≠ .none := by
    rintro rfl
    unfold declare at h
    rw [hf] at h
    cases h
  rw [declare_of_elements hf hn] at h
  obtain ⟨before, failing, behind, positions, middle, helements, hfirst, hfails⟩ :=
    declareCollection_eq_error h
  obtain ⟨first, tail, hs, rfl, ht⟩ := Arguments.splits_of_elements hn helements
  have hparts : first ≠ .none ∧ tail ≠ .none := by cases hs <;> exact ⟨nofun, nofun⟩
  obtain ⟨element, rest, hs', he, -⟩ := Arguments.splits_of_elements hparts.2
    (ht.trans (List.singleton_append ..).symm)
  have hnone : element ≠ .none := by cases hs' <;> exact nofun
  refine ⟨first, tail, element, rest, positions, middle, hs, hs', ?_, ?_, ?_⟩
  · rw [← Arguments.length_elements, he]
    rfl
  · rw [declare_of_elements hf hparts.1]
    exact hfirst
  · rw [declare_of_elements hf hnone, he]
    exact hfails

end Bench

end Fixtures
