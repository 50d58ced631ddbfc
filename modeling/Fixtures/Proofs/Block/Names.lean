import Fixtures.Proofs.Block.Step
import Fixtures.Proofs.Names.Forms
import Fixtures.Proofs.Roster.Failures

/-!
# What the name of a statement stands for

The names that factories derive may coincide, with each other and with the names of factories.  A
factory's own name goes before all derived ones; of the factories that derive a name the least has
it, and that one has it in the first of its forms (`Catalog.Means`).  The search for a name finds
exactly this (`Catalog.resolveName_means`), so it does not depend on the order in which factories
were registered, and a declaration that comes past its name has a factory.
-/

namespace Fixtures

namespace Catalog

/-- What a name stands for among the factories of a catalog. -/
inductive Means (catalog : Catalog) (settings : Settings) (name : String) : String → Form → Prop
  -- A factory has the name as its own.
  | own (h : name ∈ catalog.names) : Means catalog settings name name .singleton
  -- Otherwise the least factory among whose names it is has it, in the first form that it names.
  | derived {factory : String} {form : Form} (hown : name ∉ catalog.names)
      (hfactory : factory ∈ catalog.names)
      (hname : (Names.derive settings factory).get form = name)
      (hform : ∀ other, (Names.derive settings factory).get other = name →
        form.rank ≤ other.rank)
      (hleast : ∀ other ∈ catalog.names, (Names.derive settings other).Has name →
        factory ≤ other) :
      Means catalog settings name factory form

variable {catalog : Catalog} {settings : Settings} {name factory : String} {form : Form}

theorem isSome_factory?_iff : (catalog.factory? name).isSome = true ↔ name ∈ catalog.names := by
  rw [Option.isSome_iff_exists]
  exact SortedMap.mem_keys_iff.symm

/-- The search finds the least factory among whose names the name is. -/
theorem findSome?_names_eq_some_iff (catalog : Catalog) (settings : Settings)
    (name factory : String) (form : Form) :
    (catalog.names.findSome? fun factory =>
        ((Names.derive settings factory).form? name).map (factory, ·)) = some (factory, form) ↔
      factory ∈ catalog.names ∧ (Names.derive settings factory).form? name = some form ∧
        ∀ other ∈ catalog.names, (Names.derive settings other).Has name → factory ≤ other := by
  have hsorted : catalog.names.Pairwise (· < ·) := catalog.factories.keys_sorted
  rw [findSome?_eq_some_iff_of_pairwise (fun _ _ => String.lt_asymm) hsorted]
  simp only [Option.map_eq_some_iff, Option.isSome_map, Names.isSome_form?_iff]
  constructor
  · rintro ⟨_, hmem, ⟨form, hform, ⟨⟩⟩, hleast⟩
    refine ⟨hmem, hform, fun other ho hhas => ?_⟩
    rcases hleast other ho hhas with rfl | hlt
    · exact String.le_refl _
    · exact String.not_lt.mp (String.lt_asymm hlt)
  · rintro ⟨hmem, hform, hleast⟩
    refine ⟨factory, hmem, ⟨form, hform, rfl⟩, fun other ho hhas => ?_⟩
    by_cases hlt : factory < other
    · exact Or.inr hlt
    · exact Or.inl (String.le_antisymm (String.not_lt.mp hlt) (hleast other ho hhas))

theorem resolveName_eq_ok_iff :
    catalog.resolveName settings name = .ok (factory, form) ↔
      catalog.Means settings name factory form := by
  unfold resolveName
  simp only [isSome_factory?_iff]
  by_cases hown : name ∈ catalog.names
  · rw [if_pos hown]
    constructor
    · rintro ⟨⟩
      exact Means.own hown
    · intro h
      cases h with
      | own => rfl
      | derived hnot => exact absurd hown hnot
  · rw [if_neg hown]
    have hsearch := findSome?_names_eq_some_iff catalog settings name factory form
    rw [Names.form?_eq_some_iff] at hsearch
    constructor
    · intro h
      split at h
      · rename_i found hfound
        cases h
        obtain ⟨hmem, ⟨hname, hform⟩, hleast⟩ := hsearch.mp hfound
        exact Means.derived hown hmem hname hform hleast
      · cases h
    · intro h
      cases h with
      | own h => exact absurd h hown
      | derived _ hmem hname hform hleast =>
        rw [hsearch.mpr ⟨hmem, ⟨hname, hform⟩, hleast⟩]

theorem resolveName_eq_error_iff {error : Error} :
    catalog.resolveName settings name = .error error ↔
      error = .unknownAccessor name ∧ name ∉ catalog.names ∧
        ∀ factory ∈ catalog.names, ¬(Names.derive settings factory).Has name := by
  unfold resolveName
  simp only [isSome_factory?_iff]
  by_cases hown : name ∈ catalog.names
  · rw [if_pos hown]
    constructor
    · nofun
    · rintro ⟨-, hnot, -⟩
      exact absurd hown hnot
  · rw [if_neg hown]
    have hsearch : (catalog.names.findSome? fun factory =>
        ((Names.derive settings factory).form? name).map (factory, ·)) = none ↔
          ∀ factory ∈ catalog.names, ¬(Names.derive settings factory).Has name := by
      simp only [List.findSome?_eq_none_iff, Option.map_eq_none_iff, ← Names.isSome_form?_iff,
        Option.not_isSome_iff_eq_none]
    constructor
    · intro h
      split at h
      · cases h
      · rename_i hnone
        cases h
        exact ⟨rfl, hown, hsearch.mp hnone⟩
    · rintro ⟨rfl, -, hnone⟩
      rw [hsearch.mpr hnone]

/-- Each of the four names of a factory stands for something, not always for this factory. -/
theorem exists_resolveName (hf : factory ∈ catalog.names)
    (hn : (Names.derive settings factory).Has name) :
    ∃ found, catalog.resolveName settings name = .ok found := by
  cases hr : catalog.resolveName settings name with
  | ok found => exact ⟨found, rfl⟩
  | error error =>
    obtain ⟨-, -, hnone⟩ := resolveName_eq_error_iff.mp hr
    exact absurd hn (hnone factory hf)

end Catalog

namespace Block

variable {σ : Type} [RecordStore σ]

/-- A declaration never comes to a factory that is not there: it stops at its name, or the name
stands for a factory of the catalog. -/
theorem declare_error_ne_unknownFactory (name : String) (arguments : Arguments) (block : Block σ) :
    Ends (declare name arguments block) (fun _ _ => True)
      fun error _ => ∀ other, error ≠ .unknownFactory other := by
  rw [declare_eq]
  cases hr : block.workshop.resolveName name with
  | error error =>
    rw [(Catalog.resolveName_eq_error_iff.mp hr).1]
    exact nofun
  | ok resolved =>
    obtain ⟨factory, hf⟩ := Catalog.factory?_of_resolveName hr
    dsimp only
    rw [Catalog.factory_eq_ok_iff.mpr hf]
    dsimp only
    have hd : Ends (Bench.declare factory name resolved.2 arguments (block.bench resolved.1)) _ _ :=
      Bench.failsOnly_declare name resolved.2 arguments (block.bench resolved.1)
    cases hb : Bench.declare factory name resolved.2 arguments (block.bench resolved.1) with
    | ok positions bench => trivial
    | error error bench =>
      rw [hb] at hd
      rintro other rfl
      rcases hd with hd | hd <;> cases hd

end Block

/-- A name stands for what it means, and for nothing where no factory has it. All names of all
factories stand for something, and whatever else may stop a declaration, its name does not lead to
a factory that is missing. -/
theorem Catalog.resolveName_means (catalog : Catalog) (settings : Settings) (name : String) :
    (∀ factory form, catalog.resolveName settings name = .ok (factory, form) ↔
      catalog.Means settings name factory form) ∧
    (∀ error, catalog.resolveName settings name = .error error ↔
      error = .unknownAccessor name ∧ name ∉ catalog.names ∧
        ∀ factory ∈ catalog.names, ¬(Names.derive settings factory).Has name) ∧
    (∀ factory ∈ catalog.names, ∀ form, ∃ found,
      catalog.resolveName settings ((Names.derive settings factory).get form) = .ok found) ∧
    ∀ (σ : Type) [RecordStore σ] (arguments : Arguments) (block : Block σ),
      Ends (Block.declare name arguments block) (fun _ _ => True)
        fun error _ => ∀ other, error ≠ .unknownFactory other :=
  ⟨fun _ _ => resolveName_eq_ok_iff, fun _ => resolveName_eq_error_iff,
    fun _ hf form => exists_resolveName hf ⟨form, rfl⟩,
    fun _ _ arguments block => Block.declare_error_ne_unknownFactory name arguments block⟩

/-- Two factories with the same plural. Without a suffix it is the name of hash forms as well. -/
theorem Catalog.resolveName_means_of_shared_plural :
    let settings : Settings :=
      { hashSuffix := ""
        irregularPlurals :=
          ((∅ : SortedMap String).insert "person" "people").insert "human" "people" }
    let catalog : Catalog :=
      ((∅ : Catalog).register { name := "person", model := "Person" }).register
        { name := "human", model := "Human" }
    catalog.Means settings "people" "human" .collection ∧
      "person" ∈ catalog.names ∧ (Names.derive settings "person").get .collectionHash = "people" ∧
      ∃ found, catalog.resolveName settings ((Names.derive settings "person").get .collectionHash) =
        .ok found := by
  intro settings catalog
  have hperson : "person" ∈ catalog.names := by decide +kernel
  have hpeople : catalog.resolveName settings "people" = .ok ("human", .collection) :=
    eq_ok_of_toOption (by decide +kernel)
  exact ⟨((Catalog.resolveName_means catalog settings "people").1 _ _).mp hpeople, hperson,
    by decide +kernel,
    (Catalog.resolveName_means catalog settings "people").2.2.1 "person" hperson .collectionHash⟩

end Fixtures
