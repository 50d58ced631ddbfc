import Fixtures.Proofs.Link.Choice
import Fixtures.Proofs.Outcome

/-!
# What a link resolves to

The choice of an association, said without the search that makes it.  Where a name is wanted it is
an association of that name and no other, on the side that the name comes from if there is one;
without a name it is the only association of the source's model, or else of the target's
(`Catalog.Resolves`).  The search finds exactly that, and fails where there is none
(`Catalog.resolveLink_resolves`).
-/

namespace Fixtures

namespace Catalog

/-! ## Associations between two factories -/

/-- The schema of the model on one side has the association under the name, and it leads to the
model on the other side. -/
def Associates (catalog : Catalog) (factories : Factory × Factory) (side : Side) (name : String)
    (association : Association) : Prop :=
  ∃ schema, catalog.schema? (side.of factories).model = some schema ∧
    schema.association? name = some association ∧
      association.targetModel = (side.other.of factories).model

/-- There is no other name under which the model on this side has an association to the other. -/
def AssociatesOnly (catalog : Catalog) (factories : Factory × Factory) (side : Side)
    (association : Association) : Prop :=
  ∃ name, catalog.Associates factories side name association ∧
    ∀ other found, catalog.Associates factories side other found → other = name

variable {catalog : Catalog} {factories : Factory × Factory} {side : Side} {name : String}
  {association : Association} {resolution : Resolution}

theorem Associates.unique {found : Association}
    (h : catalog.Associates factories side name association)
    (h' : catalog.Associates factories side name found) : found = association := by
  obtain ⟨schema, hs, ha, -⟩ := h
  obtain ⟨schema', hs', ha', -⟩ := h'
  cases hs.symm.trans hs'
  exact Option.some.inj (ha'.symm.trans ha)

theorem named?_eq_some_iff :
    catalog.named? name factories side = some resolution ↔
      resolution.owner = side ∧
        catalog.Associates factories side name resolution.association := by
  obtain ⟨owner, association⟩ := resolution
  unfold named? Associates
  cases hs : catalog.schema? (side.of factories).model with
  | none => simp
  | some schema =>
    rw [Option.bind_some]
    cases ha : schema.association? name with
    | none => simp [ha]
    | some found =>
      by_cases ht : found.targetModel = (side.other.of factories).model <;> grind

theorem named?_eq_none_iff :
    catalog.named? name factories side = none ↔
      ∀ association, ¬catalog.Associates factories side name association := by
  constructor
  · intro hn association ha
    have hsome : catalog.named? name factories side = some ⟨side, association⟩ :=
      named?_eq_some_iff.mpr ⟨rfl, ha⟩
    rw [hn] at hsome
    cases hsome
  · intro hn
    cases hf : catalog.named? name factories side with
    | none => rfl
    | some found => exact absurd (named?_eq_some_iff.mp hf).2 (hn _)

/-! ## Candidates -/

/-- The candidates of a side are the associations of its schema that lead to the other side, one
for each name. -/
theorem candidates_eq_map (catalog : Catalog) (factories : Factory × Factory) (side : Side) :
    ∃ entries : List (String × Association), SortedMap.Increasing entries ∧
      catalog.candidates factories side = entries.map (·.2) ∧
      ∀ name association, (name, association) ∈ entries ↔
        catalog.Associates factories side name association := by
  unfold candidates Associates
  cases hs : catalog.schema? (side.of factories).model with
  | none => exact ⟨[], List.Pairwise.nil, rfl, by simp⟩
  | some schema => simpa using schema.towards_eq_map (side.other.of factories).model

theorem candidates_eq_nil_iff :
    catalog.candidates factories side = [] ↔
      ∀ name association, ¬catalog.Associates factories side name association := by
  obtain ⟨entries, -, hc, hm⟩ := candidates_eq_map catalog factories side
  rw [hc, List.map_eq_nil_iff, List.eq_nil_iff_forall_not_mem]
  simp only [← hm, Prod.forall]

theorem candidates_eq_singleton_iff :
    catalog.candidates factories side = [association] ↔
      catalog.AssociatesOnly factories side association := by
  obtain ⟨entries, hi, hc, hm⟩ := candidates_eq_map catalog factories side
  unfold AssociatesOnly
  simp only [hc, ← hm]
  constructor
  · intro h
    obtain ⟨⟨name, found⟩, he, rfl⟩ := List.map_eq_singleton_iff.mp h
    rw [he]
    exact ⟨name, List.mem_singleton_self _, fun other found' ho =>
      congrArg Prod.fst (List.mem_singleton.mp ho)⟩
  · rintro ⟨name, hn, ho⟩
    -- The names increase, so two of them cannot be the same.
    match entries with
    | [] => cases hn
    | [entry] =>
      rw [← List.mem_singleton.mp hn]
      rfl
    | first :: second :: rest =>
      have hfirst := ho first.1 first.2 List.mem_cons_self
      have hsecond := ho second.1 second.2 (List.mem_cons_of_mem _ List.mem_cons_self)
      have hlt := hi.lt_of_mem (List.mem_cons_self (a := second))
      rw [hfirst, hsecond] at hlt
      exact absurd hlt (String.lt_irrefl name)

/-! ## Resolving -/

/-- The name to look for, with the side that it comes from. -/
inductive Wanted (source target : Factory) : Option String → String → Side → Prop
  | asked (name : String) : Wanted source target (some name) name .source
  | ofSource {name : String} (h : source.preference? target.name = some name) :
      Wanted source target none name .source
  -- What the target prefers counts where the source prefers nothing.
  | ofTarget {name : String} (hn : source.preference? target.name = none)
      (h : target.preference? source.name = some name) : Wanted source target none name .target

/-- What a link between two factories goes through. -/
inductive Resolves (catalog : Catalog) (source target : Factory) (via : Option String) :
    Resolution → Prop
  -- The side that the name comes from has it.
  | named {name : String} {side : Side} {association : Association}
      (hw : Wanted source target via name side)
      (h : catalog.Associates (source, target) side name association) :
      Resolves catalog source target via ⟨side, association⟩
  -- Only the other side has it.
  | namedBack {name : String} {side : Side} {association : Association}
      (hw : Wanted source target via name side)
      (hn : ∀ found, ¬catalog.Associates (source, target) side name found)
      (h : catalog.Associates (source, target) side.other name association) :
      Resolves catalog source target via ⟨side.other, association⟩
  -- Without a name, the source has one association to the target.
  | only {association : Association} (hw : ∀ name side, ¬Wanted source target via name side)
      (h : catalog.AssociatesOnly (source, target) .source association) :
      Resolves catalog source target via ⟨.source, association⟩
  -- Without a name, the source has none, and the target has one back.
  | onlyBack {association : Association} (hw : ∀ name side, ¬Wanted source target via name side)
      (hn : ∀ name found, ¬catalog.Associates (source, target) .source name found)
      (h : catalog.AssociatesOnly (source, target) .target association) :
      Resolves catalog source target via ⟨.target, association⟩

variable {source target : Factory} {via : Option String}

theorem wanted?_eq_some_iff :
    wanted? source target via = some (name, side) ↔ Wanted source target via name side := by
  unfold wanted?
  constructor
  · intro h
    split at h
    · cases h
      exact Wanted.asked name
    · split at h
      · rename_i hs
        cases h
        exact Wanted.ofSource hs
      · rename_i hs
        obtain ⟨name', ht, he⟩ := Option.map_eq_some_iff.mp h
        cases he
        exact Wanted.ofTarget hs ht
  · intro h
    cases h with
    | asked => rfl
    | ofSource h =>
      dsimp only
      rw [h]
    | ofTarget hn h =>
      dsimp only
      rw [hn, h]
      rfl

theorem wanted?_eq_none_iff :
    wanted? source target via = none ↔ ∀ name side, ¬Wanted source target via name side := by
  rw [Option.eq_none_iff_forall_ne_some]
  simp only [Prod.forall, ne_eq, wanted?_eq_some_iff]

theorem Wanted.unique {name' : String} {side' : Side} (h : Wanted source target via name side)
    (h' : Wanted source target via name' side') : name' = name ∧ side' = side := by
  rw [← wanted?_eq_some_iff] at h h'
  cases h.symm.trans h'
  exact ⟨rfl, rfl⟩

theorem unnamed_eq_ok_iff :
    catalog.unnamed (source, target) [.source, .target] = .ok resolution ↔
      catalog.AssociatesOnly (source, target) resolution.owner resolution.association ∧
        (resolution.owner = .target →
          ∀ name found, ¬catalog.Associates (source, target) .source name found) := by
  obtain ⟨owner, association⟩ := resolution
  simp only [← candidates_eq_singleton_iff, ← candidates_eq_nil_iff]
  unfold unnamed unnamed unnamed
  rcases hs : catalog.candidates (source, target) .source with _ | ⟨first, _ | ⟨second, rest⟩⟩
  · rcases ht : catalog.candidates (source, target) .target with _ | ⟨first, _ | ⟨second, rest⟩⟩ <;>
      cases owner <;> simp [hs, ht]
  · cases owner <;> simp [hs]
  · cases owner <;> simp [hs]

/-- The sides of a name are searched in turn. -/
theorem Wanted.resolves_iff (hw : Wanted source target via name side) :
    catalog.Resolves source target via resolution ↔
      (resolution.owner = side ∧
        catalog.Associates (source, target) side name resolution.association) ∨
      ((∀ found, ¬catalog.Associates (source, target) side name found) ∧
        resolution.owner = side.other ∧
          catalog.Associates (source, target) side.other name resolution.association) := by
  constructor
  · intro h
    cases h with
    | named hw' ha =>
      obtain ⟨rfl, rfl⟩ := hw.unique hw'
      exact Or.inl ⟨rfl, ha⟩
    | namedBack hw' hn ha =>
      obtain ⟨rfl, rfl⟩ := hw.unique hw'
      exact Or.inr ⟨hn, rfl, ha⟩
    | only hn => exact absurd hw (hn name side)
    | onlyBack hn => exact absurd hw (hn name side)
  · obtain ⟨owner, association⟩ := resolution
    rintro (⟨rfl, ha⟩ | ⟨hn, rfl, ha⟩)
    · exact Resolves.named hw ha
    · exact Resolves.namedBack hw hn ha

theorem resolves_iff_of_unwanted (hw : ∀ name side, ¬Wanted source target via name side) :
    catalog.Resolves source target via resolution ↔
      catalog.AssociatesOnly (source, target) resolution.owner resolution.association ∧
        (resolution.owner = .target →
          ∀ name found, ¬catalog.Associates (source, target) .source name found) := by
  constructor
  · intro h
    cases h with
    | named hw' => exact absurd hw' (hw _ _)
    | namedBack hw' => exact absurd hw' (hw _ _)
    | only _ ha => exact ⟨ha, nofun⟩
    | onlyBack _ hn ha => exact ⟨ha, fun _ => hn⟩
  · obtain ⟨owner, association⟩ := resolution
    rintro ⟨ha, hn⟩
    cases owner with
    | source => exact Resolves.only hw ha
    | target => exact Resolves.onlyBack hw (hn rfl) ha

theorem chooseAssociation_eq_ok_iff :
    catalog.chooseAssociation source target via = .ok resolution ↔
      catalog.Resolves source target via resolution := by
  unfold chooseAssociation
  cases hw : wanted? source target via with
  | none => rw [resolves_iff_of_unwanted (wanted?_eq_none_iff.mp hw), unnamed_eq_ok_iff]
  | some wanted =>
    obtain ⟨name, side⟩ := wanted
    rw [(wanted?_eq_some_iff.mp hw).resolves_iff, ← named?_eq_some_iff, ← named?_eq_none_iff,
      ← named?_eq_some_iff]
    dsimp only
    cases hs : catalog.named? name (source, target) side with
    | some found => simp
    | none => cases catalog.named? name (source, target) side.other <;> simp

theorem resolveLink_eq_ok_iff :
    catalog.resolveLink source target via = .ok resolution ↔
      catalog.Resolves source target via resolution := by
  rw [← chooseAssociation_eq_ok_iff]
  unfold resolveLink
  cases catalog.chooseAssociation source target via <;> simp

/-- Whatever is found by a name has that name, on the side that it is found on. -/
theorem Wanted.associates (hw : Wanted source target via name side)
    (h : catalog.resolveLink source target via = .ok resolution) :
    catalog.Associates (source, target) resolution.owner name resolution.association := by
  rw [resolveLink_eq_ok_iff, hw.resolves_iff] at h
  rcases h with ⟨rfl, ha⟩ | ⟨-, ho, ha⟩
  · exact ha
  · exact ho ▸ ha

theorem Wanted.resolveLink_isOk_iff (hw : Wanted source target via name side) :
    (∃ resolution, catalog.resolveLink source target via = .ok resolution) ↔
      ∃ side association, catalog.Associates (source, target) side name association := by
  constructor
  · rintro ⟨resolution, hr⟩
    exact ⟨_, _, hw.associates hr⟩
  · rintro ⟨side', association, ha⟩
    by_cases hn : ∃ found, catalog.Associates (source, target) side name found
    · obtain ⟨found, hf⟩ := hn
      exact ⟨_, resolveLink_eq_ok_iff.mpr (Resolves.named hw hf)⟩
    · rw [not_exists] at hn
      -- It is the other side that has an association of the name.
      have hside : side' = side.other := by
        cases side <;> cases side'
        · exact absurd ha (hn association)
        · rfl
        · rfl
        · exact absurd ha (hn association)
      exact ⟨_, resolveLink_eq_ok_iff.mpr (Resolves.namedBack hw hn (hside ▸ ha))⟩

theorem resolveLink_isOk_iff_of_unwanted (hw : ∀ name side, ¬Wanted source target via name side) :
    (∃ resolution, catalog.resolveLink source target via = .ok resolution) ↔
      (∃ association, catalog.AssociatesOnly (source, target) .source association) ∨
      (∀ name found, ¬catalog.Associates (source, target) .source name found) ∧
        ∃ association, catalog.AssociatesOnly (source, target) .target association := by
  constructor
  · rintro ⟨⟨owner, association⟩, hr⟩
    rw [resolveLink_eq_ok_iff, resolves_iff_of_unwanted hw] at hr
    cases owner with
    | source => exact Or.inl ⟨association, hr.1⟩
    | target => exact Or.inr ⟨hr.2 rfl, association, hr.1⟩
  · rintro (⟨association, ha⟩ | ⟨hn, association, ha⟩)
    · exact ⟨_, resolveLink_eq_ok_iff.mpr (Resolves.only hw ha)⟩
    · exact ⟨_, resolveLink_eq_ok_iff.mpr (Resolves.onlyBack hw hn ha)⟩

theorem resolveLink_error {error : Error}
    (h : catalog.resolveLink source target via = .error error) :
    ∃ fault, error = .linkResolution source.name target.name fault := by
  unfold resolveLink at h
  split at h
  · cases h
  · cases h
    exact ⟨_, rfl⟩

theorem Resolves.associates (h : catalog.Resolves source target via resolution) :
    ∃ name, catalog.Associates (source, target) resolution.owner name resolution.association := by
  cases h with
  | named _ ha => exact ⟨_, ha⟩
  | namedBack _ _ ha => exact ⟨_, ha⟩
  | only _ ha => exact ⟨_, ha.choose_spec.1⟩
  | onlyBack _ _ ha => exact ⟨_, ha.choose_spec.1⟩

/-- A link resolves to what is described, and to nothing where that is nothing.  With a name, it
resolves if either side has an association of the name, and to one of that name; without one, if the
source has just one association, or none and the target has just one.  Whatever fails says so of the
two factories, and whatever is found belongs to the side that is reported. -/
theorem resolveLink_resolves (catalog : Catalog) (source target : Factory) (via : Option String) :
    (∀ resolution, catalog.resolveLink source target via = .ok resolution ↔
      catalog.Resolves source target via resolution) ∧
    (∀ name side, Wanted source target via name side →
      ((∃ resolution, catalog.resolveLink source target via = .ok resolution) ↔
        ∃ side association, catalog.Associates (source, target) side name association) ∧
      ∀ resolution, catalog.resolveLink source target via = .ok resolution →
        catalog.Associates (source, target) resolution.owner name resolution.association) ∧
    ((∀ name side, ¬Wanted source target via name side) →
      ((∃ resolution, catalog.resolveLink source target via = .ok resolution) ↔
        (∃ association, catalog.AssociatesOnly (source, target) .source association) ∨
        (∀ name found, ¬catalog.Associates (source, target) .source name found) ∧
          ∃ association, catalog.AssociatesOnly (source, target) .target association)) ∧
    (∀ error, catalog.resolveLink source target via = .error error →
      ∃ fault, error = .linkResolution source.name target.name fault) ∧
    ∀ resolution, catalog.resolveLink source target via = .ok resolution →
      ∃ name, catalog.Associates (source, target) resolution.owner name resolution.association := by
  refine ⟨fun resolution => resolveLink_eq_ok_iff, fun name side hw => ?named, fun hw => ?unnamed,
    fun error he => resolveLink_error he, fun resolution hr => ?declared⟩
  case named => exact ⟨hw.resolveLink_isOk_iff, fun resolution hr => hw.associates hr⟩
  case unnamed => exact resolveLink_isOk_iff_of_unwanted hw
  case declared => exact (resolveLink_eq_ok_iff.mp hr).associates

/-- Users have two associations to users, so that it takes the preference of a follower to link
them, on whichever side the follower stands. -/
theorem resolveLink_resolves_of_preferred :
    let user : Factory := { name := "user", model := "User" }
    let follower : Factory :=
      ({ name := "follower", model := "User" } : Factory).withPreference "user" "following"
    let following : Association :=
      { name := "following", kind := .manyToMany "Following" "followerId" "followedId",
        targetModel := "User", foreignKey := "" }
    let followers : Association :=
      { name := "followers", kind := .manyToMany "Following" "followedId" "followerId",
        targetModel := "User", foreignKey := "" }
    let catalog := (((∅ : Catalog).register user).register follower).registerSchema
      ((({ model := "User" } : Schema).add following).add followers)
    Wanted user follower none "following" .target ∧
      catalog.Resolves user follower none ⟨.target, following⟩ ∧
      (∀ name side, ¬Wanted user user none name side) ∧
      ¬∃ association, catalog.AssociatesOnly (user, user) .source association := by
  intro user follower following followers catalog
  have hw : Wanted user follower none "following" .target := wanted?_eq_some_iff.mp (by decide)
  have hn : ∀ name side, ¬Wanted user user none name side := wanted?_eq_none_iff.mp (by decide)
  have hr : catalog.resolveLink user follower none = .ok ⟨.target, following⟩ :=
    eq_ok_of_toOption (by decide +kernel)
  have ha : ¬∃ resolution, catalog.resolveLink user user none = .ok resolution := by
    have hf : (catalog.resolveLink user user none).toOption = none := by decide +kernel
    rintro ⟨resolution, hr⟩
    rw [hr] at hf
    cases hf
  exact ⟨hw, ((resolveLink_resolves catalog user follower none).1 _).mp hr, hn, fun hs =>
    ha (((resolveLink_resolves catalog user user none).2.2.1 hn).mpr (Or.inl hs))⟩

end Catalog

end Fixtures
