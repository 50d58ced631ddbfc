import Fixtures.Catalog
import Fixtures.Context
import Fixtures.Proofs.Names.Forms
import Fixtures.Proofs.Outcome

/-!
# Names of statements and names of accessors

A catalog resolves the name of a statement by searching its factories, and a context binds names by
filling a map from its rosters.  Both leave a shared name to the first factory, and to the first
form in it: `Catalog.form?_of_resolveName` and `Context.get?_bindings` describe them in the same
terms.  The two need not agree on which factory comes first.  But a name that only one of the
factories has is bound to that factory, whatever their order, in the form for which the name stands
in a statement (`Context.get?_bindings_of_unique`).
-/

namespace Fixtures

/-- A statement means the form that its name has among the names of the factory. -/
theorem Catalog.form?_of_resolveName {catalog : Catalog} {settings : Settings}
    {name factory : String} {form : Form}
    (h : catalog.resolveName settings name = .ok (factory, form)) :
    (Names.derive settings factory).form? name = some form := by
  unfold resolveName at h
  split at h
  · cases h
    exact Names.form?_derive_self settings name
  · split at h
    · rename_i found hfound
      cases h
      obtain ⟨other, -, ho⟩ := List.exists_of_findSome?_eq_some hfound
      obtain ⟨form', hform, he⟩ := Option.map_eq_some_iff.mp ho
      cases he
      exact hform
    · cases h

namespace Context

/-! ## Binding -/

/-- Binding the names of some forms leaves the bound names, and gives a free one to the first
form. -/
theorem get?_foldl_insertNew (bindings : SortedMap (String × Form)) (factory : String)
    (entries : List (Form × String)) (name : String) :
    (entries.foldl (fun bindings (form, name) => bindings.insertNew name (factory, form))
        bindings).get? name =
      (bindings.get? name).or
        ((entries.find? fun entry => entry.2 == name).map fun entry => (factory, entry.1)) := by
  induction entries generalizing bindings with
  | nil => exact (Option.or_none ..).symm
  | cons entry rest ih =>
    obtain ⟨form, other⟩ := entry
    rw [List.foldl_cons, ih, SortedMap.get?_insertNew, List.find?_cons]
    by_cases h : name = other
    · rw [if_pos h, h, beq_self_eq_true other]
      cases bindings.get? other <;> rfl
    · rw [if_neg h, beq_eq_false_iff_ne.mpr (Ne.symm h)]

theorem get?_bindNames (bindings : SortedMap (String × Form)) (names : Names) (name : String) :
    (bindNames bindings names).get? name =
      (bindings.get? name).or ((names.form? name).map (names.factory, ·)) := by
  unfold bindNames Names.form?
  rw [get?_foldl_insertNew, Option.map_map]
  rfl

theorem get?_foldl_bindNames (settings : Settings) (bindings : SortedMap (String × Form))
    (factories : List String) (name : String) :
    ((factories.map (Names.derive settings)).foldl bindNames bindings).get? name =
      (bindings.get? name).or (factories.findSome? fun factory =>
        ((Names.derive settings factory).form? name).map (factory, ·)) := by
  induction factories generalizing bindings with
  | nil => exact (Option.or_none ..).symm
  | cons factory rest ih =>
    rw [List.map_cons, List.foldl_cons, ih, get?_bindNames, Option.or_assoc,
      Names.factory_derive, List.findSome?_cons]
    cases ((Names.derive settings factory).form? name).map (factory, ·) <;> rfl

/-- A name is bound to the first factory with a roster that has it, in the form that has it. -/
theorem get?_bindings (enumeration : Enumeration) (settings : Settings)
    (rosters : SortedMap Roster) (name : String) :
    (ofRosters enumeration settings rosters).bindings.get? name =
      (enumeration.order rosters.keys).findSome? fun factory =>
        ((Names.derive settings factory).form? name).map (factory, ·) := by
  unfold ofRosters
  dsimp only
  rw [get?_foldl_bindNames, SortedMap.get?_empty, Option.none_or]

theorem get?_bindings_of_unique (enumeration : Enumeration) {settings : Settings}
    {rosters : SortedMap Roster} {name factory : String} {form : Form}
    (hm : factory ∈ rosters.keys)
    (hf : (Names.derive settings factory).form? name = some form)
    (hu : ∀ other ∈ rosters.keys, other ≠ factory →
      ∀ form, (Names.derive settings other).get form ≠ name) :
    (ofRosters enumeration settings rosters).bindings.get? name = some (factory, form) := by
  rw [get?_bindings]
  have hmem : ∀ other, other ∈ enumeration.order rosters.keys ↔ other ∈ rosters.keys :=
    fun _ => (enumeration.perm rosters.keys).mem_iff
  have hn : ∀ other ∈ enumeration.order rosters.keys, other ≠ factory →
      ((Names.derive settings other).form? name).map (other, ·) = none := fun other ho hne => by
    rw [Names.form?_eq_none_iff.mpr (hu other ((hmem other).mp ho) hne), Option.map_none]
  -- The search comes past factories without the name only, until it comes to this one.
  rw [← hmem] at hm
  generalize enumeration.order rosters.keys = factories at hm hn
  induction factories with
  | nil => cases hm
  | cons other rest ih =>
    rw [List.findSome?_cons]
    by_cases he : other = factory
    · rw [he, hf]
      rfl
    · rw [hn other List.mem_cons_self he]
      exact ih (List.mem_of_ne_of_mem (Ne.symm he) hm)
        fun other ho => hn other (List.mem_cons_of_mem _ ho)

/-- No two of the factories have a name in common. -/
def Unshared (settings : Settings) (factories : List String) : Prop :=
  ∀ factory ∈ factories, ∀ other ∈ factories, other ≠ factory → ∀ form form',
    (Names.derive settings other).get form ≠ (Names.derive settings factory).get form'

theorem get?_bindings_of_none (enumeration : Enumeration) {settings : Settings}
    {rosters : SortedMap Roster} {name : String}
    (hn : ∀ factory ∈ rosters.keys, (Names.derive settings factory).form? name = none) :
    (ofRosters enumeration settings rosters).bindings.get? name = none := by
  rw [get?_bindings, List.findSome?_eq_none_iff]
  intro factory hf
  rw [hn factory ((enumeration.perm rosters.keys).mem_iff.mp hf), Option.map_none]

/-- Where no name is shared, the order of the factories does not matter. -/
theorem ofRosters_eq_of_unshared (enumeration enumeration' : Enumeration) {settings : Settings}
    {rosters : SortedMap Roster} (h : Unshared settings rosters.keys) :
    ofRosters enumeration settings rosters = ofRosters enumeration' settings rosters := by
  apply congrArg (Context.mk rosters)
  apply SortedMap.ext
  intro name
  by_cases hn : ∀ factory ∈ rosters.keys, (Names.derive settings factory).form? name = none
  · exact (get?_bindings_of_none enumeration hn).trans (get?_bindings_of_none enumeration' hn).symm
  · obtain ⟨factory, hm, hne⟩ : ∃ factory ∈ rosters.keys,
        (Names.derive settings factory).form? name ≠ none := by
      simpa only [Classical.not_forall, exists_prop] using hn
    obtain ⟨form, hform⟩ := Option.ne_none_iff_exists'.mp hne
    have hname := (Names.form?_eq_some_iff.mp hform).1
    have hu : ∀ other ∈ rosters.keys, other ≠ factory →
        ∀ form, (Names.derive settings other).get form ≠ name := fun other ho hne form' =>
      hname ▸ h factory hm other ho hne form' form
    exact (get?_bindings_of_unique enumeration hm hform hu).trans
      (get?_bindings_of_unique enumeration' hm hform hu).symm

/-! ## Reading -/

variable {context : Context} {name factory : String} {form : Form} {roster : Roster}

theorem rosterIn_eq_ok (hb : context.bindings.get? name = some (factory, form))
    (hr : context.rosters.get? factory = some roster) :
    context.rosterIn form name = .ok roster := by
  unfold rosterIn binding
  rw [hb]
  show (if form = form then context.boundRoster name factory else _) = _
  rw [if_pos rfl]
  unfold boundRoster roster?
  rw [hr]

theorem singletonIn_eq_ok {item : Instance}
    (hb : context.bindings.get? name = some (factory, form))
    (hr : context.rosters.get? factory = some roster)
    (hi : roster.singletonInstance? = some item) : context.singletonIn form name = .ok item := by
  unfold singletonIn
  rw [rosterIn_eq_ok hb hr]
  dsimp only [bind, Except.bind]
  rw [hi]

theorem collectionIn_eq_ok (hb : context.bindings.get? name = some (factory, form))
    (hr : context.rosters.get? factory = some roster) (hc : roster.hasCollection = true) :
    context.collectionIn form name = .ok roster.instances := by
  unfold collectionIn
  rw [rosterIn_eq_ok hb hr]
  show (if roster.hasCollection then _ else _) = _
  rw [if_pos hc]

theorem recordOf_error {item : Instance} {error : Error} (h : recordOf name item = .error error) :
    error = .notPersisted name := by
  unfold recordOf at h
  split at h <;> cases h
  rfl

theorem mapM_recordOf_error {items : List Instance} {error : Error}
    (h : items.mapM (recordOf name) = .error error) : error = .notPersisted name := by
  obtain ⟨_, item, _, -, -, hitem⟩ := mapM_eq_error_iff.mp h
  exact recordOf_error hitem

/-- A bound name whose factory was declared in its form can be read, unless a record is asked for
that was never saved. -/
theorem read_error {error : Error} (hb : context.bindings.get? name = some (factory, form))
    (hr : context.rosters.get? factory = some roster)
    (hs : form.isCollection = false → ∃ item, roster.singletonInstance? = some item)
    (hc : form.isCollection = true → roster.hasCollection = true)
    (h : context.read name = .error error) : error = .notPersisted name := by
  have hbinding : context.binding name = .ok (factory, form) := by
    unfold binding
    rw [hb]
  unfold read at h
  rw [hbinding] at h
  cases form with
  | singleton =>
    obtain ⟨item, hi⟩ := hs rfl
    change (context.record name).map Reading.record = _ at h
    unfold record at h
    rw [singletonIn_eq_ok hb hr hi] at h
    exact recordOf_error (eq_error_of_map h)
  | singletonHash =>
    obtain ⟨item, hi⟩ := hs rfl
    change (context.hash name).map Reading.hash = _ at h
    unfold hash at h
    rw [singletonIn_eq_ok hb hr hi] at h
    cases h
  | collection =>
    change (context.records name).map Reading.records = _ at h
    unfold records at h
    rw [collectionIn_eq_ok hb hr (hc rfl)] at h
    exact mapM_recordOf_error (eq_error_of_map h)
  | collectionHash =>
    change (context.hashes name).map Reading.hashes = _ at h
    unfold hashes at h
    rw [collectionIn_eq_ok hb hr (hc rfl)] at h
    cases h

end Context

end Fixtures
