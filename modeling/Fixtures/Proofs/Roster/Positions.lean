import Fixtures.Proofs.Roster.Step
import Fixtures.Proofs.Store.Insertions

/-!
# Operations seen from the positions

What preparing and saving do to a roster, position by position.  Preparing a position puts an
instance there, the one of before with other attributes or else a new one, and a failure leaves
every instance with its index (`Bench.prepare_ends`).  Saving marks an instance as saved
(`Bench.saveIf_ends`).
-/

namespace Fixtures

variable {σ : Type}

namespace Bench

variable {factory : Factory} {position : Nat} {bench left : Bench σ} {item : Instance}

theorem onInstance_ends {α : Type} {operation : EStateM Error (Instance × σ) α}
    {answered : α → Instance × σ → Prop} {failed : Error → Instance × σ → Prop}
    (hi : bench.roster.instance? position = some item)
    (h : Ends (operation (item, bench.store)) answered failed) :
    Ends (onRoster (Roster.onInstance position operation) bench)
      (fun answer left => ∃ pair, answered answer pair ∧ left = bench.withInstance position pair)
      (fun error left => ∃ pair, failed error pair ∧ left = bench.withInstance position pair) := by
  rw [onInstance_of_some operation hi]
  cases ho : operation (item, bench.store) with
  | ok answer pair =>
    rw [ho] at h
    exact ⟨pair, h, rfl⟩
  | error error pair =>
    rw [ho] at h
    exact ⟨pair, h, rfl⟩

/-- There is an instance at a position now, and the rest of the roster is as before. -/
structure Puts (bench left : Bench σ) (position : Nat) (item : Instance) : Prop where
  marks : left.roster = { bench.roster with instances := left.roster.instances }
  instances : ∀ p, left.roster.instance? p =
    if p = position then some item else bench.roster.instance? p

theorem withInstance_self (hi : bench.roster.instance? position = some item) :
    bench.withInstance position (item, bench.store) = bench := by
  unfold withInstance
  rw [Roster.setInstance_self hi]

theorem puts_withInstance (hi : bench.roster.instance? position = some item)
    (pair : Instance × σ) : Puts bench (bench.withInstance position pair) position pair.1 :=
  ⟨rfl, Roster.instance?_setInstance hi pair.1⟩

theorem Puts.size (h : Puts bench left position item) (hp : position ≤ bench.roster.size) :
    left.roster.size = max bench.roster.size (position + 1) := by
  have hlt : ∀ p, p < left.roster.size ↔ p = position ∨ p < bench.roster.size := by
    intro p
    rw [Roster.lt_size_iff, h.instances, Roster.lt_size_iff]
    by_cases hpos : p = position
    · rw [if_pos hpos]
      exact ⟨fun _ => Or.inl hpos, fun _ => rfl⟩
    · rw [if_neg hpos]
      exact ⟨Or.inr, fun ho => ho.resolve_left hpos⟩
  -- Both sizes bound the same positions, so neither is among them.
  have h₁ := hlt left.roster.size
  have h₂ := hlt (max bench.roster.size (position + 1))
  omega

/-- Every instance is where it was, with the index it had. -/
structure Retains (bench left : Bench σ) : Prop where
  marks : left.roster = { bench.roster with instances := left.roster.instances }
  indices : ∀ p, (left.roster.instance? p).map (·.index) =
    (bench.roster.instance? p).map (·.index)

theorem Retains.size (h : Retains bench left) : left.roster.size = bench.roster.size := by
  apply Roster.size_eq_of_isSome
  intro p
  have hp := congrArg Option.isSome (h.indices p)
  rwa [Option.isSome_map, Option.isSome_map] at hp

theorem Puts.retains (h : Puts bench left position item) {old : Instance}
    (ho : bench.roster.instance? position = some old) (hi : item.index = old.index) :
    Retains bench left := by
  refine ⟨h.marks, fun p => ?_⟩
  rw [h.instances]
  by_cases hp : p = position
  · rw [if_pos hp, hp, ho, Option.map_some, Option.map_some, hi]
  · rw [if_neg hp]

end Bench

variable [RecordStore σ]

namespace Instance

/-- What no change of attributes touches: the index, and whether there is a record. -/
def outline (item : Instance) : Nat × Bool := (item.index, item.isPersisted)

theorem revise_ends (changes : AttributeMap) (item : Instance) (store : σ) :
    Ends (revise changes (item, store))
      (fun _ left => left.1.outline = item.outline ∧ Rewritten store left.2)
      (fun error left => left.1.outline = item.outline ∧ error.isMissingAccessor = false) := by
  cases hr : item.record with
  | none =>
    rw [revise_of_none changes store hr]
    exact ⟨rfl, Or.inl rfl⟩
  | some record =>
    have ho : ∀ found : Record,
        ({ item.revised changes with record := some found } : Instance).outline = item.outline := by
      intro found
      unfold outline isPersisted
      rw [hr]
      rfl
    rw [revise_of_some changes store hr]
    cases hs : RecordStore.replace record (record.attributes.overlay changes) store with
    | ok found left => exact ⟨ho found, Or.inr ⟨_, _, (after_of_ok hs).symm⟩⟩
    | error error left => exact ⟨rfl, rfl⟩

theorem override_ends (overrides : AttributeMap) (item : Instance) (store : σ) :
    Ends (override overrides (item, store))
      (fun _ left => left.1.outline = item.outline ∧ Rewritten store left.2)
      (fun error left => left.1.outline = item.outline ∧ error.isMissingAccessor = false) :=
  revise_ends overrides { item with overrides := item.overrides.overlay overrides } store

/-- What a successful saving did: nothing for a saved instance, else one insertion. -/
structure Saved (factory : Factory) (item : Instance) (store : σ) (left : Instance × σ) :
    Prop where
  index : left.1.index = item.index
  attributes : left.1.attributes = item.attributes
  isPersisted : left.1.isPersisted = true
  store_of_saved : item.isPersisted = true → left.2 = store
  store_of_unsaved : item.isPersisted = false → ∃ created middle,
    RecordStore.insert factory.model item.attributes store = .ok created middle ∧
      Rewritten middle left.2

theorem save_ends (factory : Factory) (item : Instance) (store : σ) :
    Ends (save factory (item, store)) (fun _ left => Saved factory item store left)
      (fun error left => left.1 = item ∧ error.isMissingAccessor = false) := by
  cases hr : item.record with
  | some record =>
    rw [save_of_some factory store hr]
    have hp : item.isPersisted = true := by rw [isPersisted, hr]; rfl
    exact ⟨rfl, rfl, hp, fun _ => rfl, fun hn => by rw [hp] at hn; cases hn⟩
  | none =>
    have hp : item.isPersisted = false := by rw [isPersisted, hr]; rfl
    have hn : item.isPersisted = true → ∀ left : σ, left = store := by
      intro ht
      rw [hp] at ht
      cases ht
    rw [save_of_none factory store hr]
    cases hi : RecordStore.insert factory.model item.attributes store with
    | error error left => exact ⟨rfl, rfl⟩
    | ok created middle =>
      dsimp only
      -- The store is asked again only where the hook has changed a value.
      by_cases hv : (factory.afterCreating created).attributes.sameValues created.attributes
      · rw [if_pos hv]
        exact ⟨rfl, rfl, rfl, fun ht => hn ht _, fun _ => ⟨created, middle, hi, Or.inl rfl⟩⟩
      · rw [if_neg hv]
        cases hs : RecordStore.replace (factory.afterCreating created)
          (factory.afterCreating created).attributes middle with
        | error error left => exact ⟨rfl, rfl⟩
        | ok found left =>
          exact ⟨rfl, rfl, rfl, fun ht => hn ht _,
            fun _ => ⟨created, middle, hi, Or.inr ⟨_, _, (after_of_ok hs).symm⟩⟩⟩

theorem outline_revise (changes : AttributeMap) (item : Instance) (store : σ) :
    (after (revise changes) (item, store)).1.outline = item.outline :=
  Ends.after (P := fun left => left.1.outline = item.outline)
    ((revise_ends changes item store).mono (fun _ _ h => h.1) fun _ _ h => h.1)

theorem outline_override (overrides : AttributeMap) (item : Instance) (store : σ) :
    (after (override overrides) (item, store)).1.outline = item.outline :=
  Ends.after (P := fun left => left.1.outline = item.outline)
    ((override_ends overrides item store).mono (fun _ _ h => h.1) fun _ _ h => h.1)

theorem index_revise (changes : AttributeMap) (item : Instance) (store : σ) :
    (after (revise changes) (item, store)).1.index = item.index :=
  congrArg Prod.fst (item.outline_revise changes store)

theorem index_override (overrides : AttributeMap) (item : Instance) (store : σ) :
    (after (override overrides) (item, store)).1.index = item.index :=
  congrArg Prod.fst (item.outline_override overrides store)

theorem index_save (factory : Factory) (item : Instance) (store : σ) :
    (after (save factory) (item, store)).1.index = item.index :=
  Ends.after (P := fun left => left.1.index = item.index)
    ((save_ends factory item store).mono (fun _ _ h => h.index)
      fun _ _ h => congrArg Instance.index h.1)

end Instance

namespace Bench

variable {factory : Factory} {position : Nat} {bench middle left : Bench σ}
  {item : Instance}

/-! ## Preparing -/

/-- What a successful preparation of a position did. -/
structure Prepared (factory : Factory) (position : Nat) (bench left : Bench σ) (item : Instance) :
    Prop where
  puts : Puts bench left position item
  outline : item.outline =
    ((bench.roster.instance? position).map (·.outline)).getD
      (bench.counters.current factory.name, false)
  counters : left.counters =
    if position < bench.roster.size then bench.counters
    else bench.counters.advance factory.name 1
  -- A new instance has an index, so its counter was not at the last word.
  room : bench.roster.size ≤ position →
    bench.counters.current factory.name + 1 < UInt64.size
  store : Rewritten bench.store left.store

theorem Prepared.instance? {left : Bench σ} {marked : Roster}
    (h : Prepared factory position bench left item)
    (hm : marked.instances = left.roster.instances) :
    marked.instance? position = some item := by
  have hat := h.puts.instances position
  rw [if_pos rfl] at hat
  unfold Roster.instance?
  rw [hm]
  exact hat

theorem prepared_of_some (hi : bench.roster.instance? position = some item)
    {pair : Instance × σ} (ho : pair.1.outline = item.outline)
    (hs : Rewritten bench.store pair.2) :
    Prepared factory position bench (bench.withInstance position pair) pair.1 := by
  have hlt : position < bench.roster.size := Roster.lt_size_iff.mpr (by rw [hi]; rfl)
  refine ⟨puts_withInstance hi pair, ?_, ?_, fun hle => absurd hlt (Nat.not_lt.mpr hle), hs⟩
  · rw [hi, Option.map_some, Option.getD_some, ho]
  · rw [if_pos hlt]
    rfl

theorem build_ends (overrides : AttributeMap) (bench : Bench σ) :
    Ends (build factory overrides bench)
      (fun _ left => ∃ item, Prepared factory bench.roster.size bench left item)
      (fun error left => Retains bench left ∧ error.isMissingAccessor = false) := by
  rw [build_eq]
  cases ha : Counters.upcoming factory bench.counters with
  | error error =>
    -- The index is spent, and nothing else has happened.
    obtain ⟨index, field, message, rfl⟩ := Counters.upcoming_eq_error ha
    exact ⟨⟨rfl, fun _ => rfl⟩, rfl⟩
  | ok attributes =>
    have hroom := (Counters.upcoming_eq_ok_iff.mp ha).1
    refine ⟨_, ⟨rfl, Roster.instance?_push bench.roster _⟩, ?_, ?_, fun _ => hroom, Or.inl rfl⟩
    · rw [Roster.instance?_size]
      rfl
    · rw [if_neg (Nat.lt_irrefl _)]

theorem prepare_ends (overrides : Option AttributeMap) (hp : position ≤ bench.roster.size) :
    Ends (prepare factory position overrides bench)
      (fun _ left => ∃ item, Prepared factory position bench left item)
      (fun error left => Retains bench left ∧ error.isMissingAccessor = false) := by
  show Ends ((if position < bench.roster.size then _ else _ : EStateM Error (Bench σ) Unit) bench)
    _ _
  by_cases hlt : position < bench.roster.size
  · rw [if_pos hlt]
    obtain ⟨item, hi⟩ := Option.isSome_iff_exists.mp (Roster.lt_size_iff.mp hlt)
    cases overrides with
    | none =>
      have hs : Prepared factory position bench
          (bench.withInstance position (item, bench.store)) item :=
        prepared_of_some hi rfl (Or.inl rfl)
      rw [withInstance_self hi] at hs
      exact ⟨item, hs⟩
    | some overrides =>
      apply Ends.discard
      have hread : Ends ((do Instance.override overrides; return (← get).1.attributes :
          EStateM Error (Instance × σ) AttributeMap) (item, bench.store))
          (fun _ left => left.1.outline = item.outline ∧ Rewritten bench.store left.2)
          (fun error left => left.1.outline = item.outline ∧ error.isMissingAccessor = false) :=
        Ends.bind (item.override_ends overrides bench.store) fun _ _ h => h
      apply Ends.mono (onInstance_ends hi hread)
      · rintro _ left ⟨pair, ⟨ho, hs⟩, rfl⟩
        exact ⟨pair.1, prepared_of_some hi ho hs⟩
      · rintro error left ⟨pair, ⟨ho, he⟩, rfl⟩
        exact ⟨(puts_withInstance hi pair).retains hi (congrArg Prod.fst ho), he⟩
  · rw [if_neg hlt]
    -- A new instance goes to the end, which is where the position is.
    have he : position = bench.roster.size := by omega
    rw [he]
    exact build_ends (overrides.getD ∅) bench

/-! ## Saving -/

/-- What a successful saving of a position did, if records were asked for at all. -/
structure SavedAt (saved : Bool) (factory : Factory) (position : Nat) (bench left : Bench σ)
    (item item' : Instance) : Prop where
  puts : Puts bench left position item'
  counters : left.counters = bench.counters
  unsaved : saved = false → item' = item ∧ left.store = bench.store
  saved : saved = true → Instance.Saved factory item bench.store (item', left.store)

theorem saveIf_ends (saved : Bool) (hi : bench.roster.instance? position = some item) :
    Ends (saveIf saved factory position bench)
      (fun _ left => ∃ item', SavedAt saved factory position bench left item item')
      (fun error left => Retains bench left ∧ error.isMissingAccessor = false) := by
  cases saved with
  | false =>
    have hp := puts_withInstance hi (item, bench.store)
    rw [withInstance_self hi] at hp
    exact ⟨item, hp, rfl, fun _ => ⟨rfl, rfl⟩, nofun⟩
  | true =>
    apply Ends.mono (onInstance_ends hi (item.save_ends factory bench.store))
    · rintro _ left ⟨pair, hs, rfl⟩
      exact ⟨pair.1, puts_withInstance hi pair, rfl, nofun, fun _ => hs⟩
    · rintro error left ⟨pair, ⟨he, hm⟩, rfl⟩
      exact ⟨(puts_withInstance hi pair).retains hi (by rw [he]), hm⟩

theorem SavedAt.index {saved : Bool} {item' : Instance}
    (h : SavedAt saved factory position bench left item item') : item'.index = item.index := by
  cases saved with
  | false => rw [(h.unsaved rfl).1]
  | true => exact (h.saved rfl).index

/-! ## Preparing, marking and saving -/

theorem Prepared.instance?_saved {saved : Bool} {item' : Instance} {marked : Roster}
    (h : Prepared factory position bench middle item)
    (hs : SavedAt saved factory position { middle with roster := marked } left item item')
    (hm : marked.instances = middle.roster.instances) (p : Nat) :
    left.roster.instance? p =
      if p = position then some item' else bench.roster.instance? p := by
  have hmarked : marked.instance? p = middle.roster.instance? p := by
    unfold Roster.instance?
    rw [hm]
  rw [hs.puts.instances]
  by_cases he : p = position
  · rw [if_pos he, if_pos he]
  · rw [if_neg he, if_neg he, hmarked, h.puts.instances, if_neg he]

theorem Prepared.size_saved {saved : Bool} {item' : Instance} {marked : Roster}
    (h : Prepared factory position bench middle item) (hp : position ≤ bench.roster.size)
    (hs : SavedAt saved factory position { middle with roster := marked } left item item')
    (hm : marked.instances = middle.roster.instances) :
    left.roster.size = max bench.roster.size (position + 1) := by
  have hmarked : marked.size = middle.roster.size := by
    unfold Roster.size
    rw [hm]
  have hmiddle := h.puts.size hp
  have hle : position ≤ marked.size := by omega
  have hleft := hs.puts.size hle
  change left.roster.size = max marked.size (position + 1) at hleft
  omega

/-- A position is prepared, marked in the roster and then saved, so a failure of saving leaves the
mark. -/
theorem touch_ends {α : Type} {mark : Roster → Roster} {next : EStateM Error (Bench σ) α}
    {answered : α → Bench σ → Prop} {failed : Error → Bench σ → Prop}
    (overrides : Option AttributeMap) (saved : Bool) (hp : position ≤ bench.roster.size)
    (hm : ∀ roster, (mark roster).instances = roster.instances)
    (hprepare : ∀ error left, Retains bench left → error.isMissingAccessor = false →
      failed error left)
    (hsave : ∀ middle item, Prepared factory position bench middle item →
      ∀ error left, Retains { middle with roster := mark middle.roster } left →
        error.isMissingAccessor = false → failed error left)
    (hnext : ∀ middle item left item', Prepared factory position bench middle item →
      SavedAt saved factory position { middle with roster := mark middle.roster } left item item' →
        Ends (next left) answered failed) :
    Ends ((do
      prepare factory position overrides
      modifyRoster mark
      saveIf saved factory position
      next : EStateM Error (Bench σ) α) bench) answered failed := by
  apply Ends.bind (Ends.mono (prepare_ends overrides hp) (fun _ _ h => h)
    fun error left h => hprepare error left h.1 h.2)
  intro _ middle h
  obtain ⟨item, hpr⟩ := h
  have hi : (mark middle.roster).instance? position = some item := hpr.instance? (hm _)
  show Ends ((saveIf saved factory position >>= fun _ => next)
    { middle with roster := mark middle.roster }) _ _
  apply Ends.bind (Ends.mono (saveIf_ends saved hi) (fun _ _ h => h)
    fun error left h => hsave middle item hpr error left h.1 h.2)
  -- Only now may the position count on its record.
  intro _ left h
  obtain ⟨item', hsv⟩ := h
  exact hnext middle item left item' hpr hsv

end Bench

end Fixtures
