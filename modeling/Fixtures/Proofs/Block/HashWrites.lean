import Fixtures.Proofs.Block.Records
import Fixtures.Proofs.Roster.Positions
import Mathlib.Data.List.Basic

/-!
# What a hash form writes

A hash form asks for no record, but it may come to an instance that has one, and overrides for such
an instance are written through.  So all that a hash form does to the store is to replace the
records of instances that it was given overrides for, up to the first replacement that is refused
(`Block.declare_updated`).
-/

namespace Fixtures

open DatabaseBacked

/-! ## Replacements in a row -/

section

variable {σ : Type} [RecordStore σ]

/-- The store after replacements, each of a record's fields, whichever of them it refuses. -/
def replaceAll (writes : List (Record × AttributeMap)) (store : σ) : σ :=
  writes.foldl (fun store write => after (RecordStore.replace write.1 write.2) store) store

theorem replaceAll_append (writes writes' : List (Record × AttributeMap)) (store : σ) :
    replaceAll (writes ++ writes') store = replaceAll writes' (replaceAll writes store) :=
  List.foldl_append

/-- A journal writes down one replacement for each. -/
theorem Journal.calls_replaceAll (writes : List (Record × AttributeMap)) (journal : Journal σ) :
    ∃ added, (replaceAll writes journal).calls = journal.calls ++ added ∧
      ∀ call ∈ added, ∃ write ∈ writes, ∃ outcome,
        call = .replace write.1.model write.1.id write.2 outcome := by
  induction writes generalizing journal with
  | nil => exact ⟨[], (List.append_nil _).symm, nofun⟩
  | cons write writes ih =>
    obtain ⟨outcome, hcalls⟩ := calls_replace write.1 write.2 journal
    obtain ⟨added, hadded, hwrites⟩ := ih (after (RecordStore.replace write.1 write.2) journal)
    refine ⟨.replace write.1.model write.1.id write.2 outcome :: added, ?_, fun call hc => ?_⟩
    · rw [List.append_cons, ← hcalls]
      exact hadded
    · rcases List.mem_cons.mp hc with rfl | hc
      · exact ⟨write, List.mem_cons_self, outcome, rfl⟩
      · obtain ⟨write', hw, ho⟩ := hwrites call hc
        exact ⟨write', List.mem_cons_of_mem _ hw, ho⟩

theorem Database.ids_replace {db db' : Database} {record found : Record}
    {attributes : AttributeMap} (h : Database.replace record attributes db = .ok found db')
    (model : String) : (db'.all model).map (·.id) = (db.all model).map (·.id) := by
  obtain ⟨-, i, old, hi, hid, hf, rfl⟩ := replace_eq_ok h
  unfold all
  rw [table_with_insert]
  split
  · rename_i hm
    -- The row that is put in has the key of the row that goes.
    have hkey : ((db.table record.model).rows.map (·.id))[i]? = some found.id := by
      rw [List.getElem?_map, hi, hf]
      rfl
    obtain ⟨hlt, hget⟩ := List.getElem?_eq_some_iff.mp hkey
    rw [hm, List.map_set, ← hget, List.set_getElem_self]
  · rfl

/-- Replacing neither adds nor removes a row. -/
theorem ids_replaceAll [DatabaseBacked σ] (writes : List (Record × AttributeMap)) (store : σ)
    (model : String) :
    ((database (replaceAll writes store)).all model).map (·.id) =
      ((database store).all model).map (·.id) := by
  induction writes generalizing store with
  | nil => rfl
  | cons write writes ih =>
    refine (ih (after (RecordStore.replace write.1 write.2) store)).trans ?_
    cases hr : RecordStore.replace write.1 write.2 store with
    | ok found left =>
      rw [after_of_ok hr]
      exact Database.ids_replace (replace_ok hr) model
    | error error left =>
      rw [after_of_error hr, replace_error hr]

end

/-! ## Positions that a declaration works on -/

namespace Roster

/-- The positions from one on, each with the overrides for it. -/
def claimsFrom (position : Nat) (overrides : List (Option AttributeMap)) :
    List (Nat × Option AttributeMap) :=
  (List.range' position overrides.length).zip overrides

/-- The positions that a declaration works on, each with the overrides given for it. -/
def claims (roster : Roster) (form : Form) (arguments : Arguments) :
    List (Nat × Option AttributeMap) :=
  match form.isCollection, arguments with
  | false, .none => [(roster.singleton.getD 0, none)]
  | false, .overrides [overrides] => [(roster.singleton.getD 0, some overrides)]
  | false, .overrides _ | false, .count _ | true, .none => []
  | true, .count count =>
    claimsFrom (roster.claimed !form.isHash) (List.replicate count none)
  | true, .overrides maps => claimsFrom (roster.claimed !form.isHash) (maps.map some)

/-- The replacements that overrides come to: where there is a record, its fields with the overrides
over them. -/
def updates (roster : Roster) (claims : List (Nat × Option AttributeMap)) :
    List (Record × AttributeMap) :=
  claims.filterMap fun claim =>
    (roster.record? claim.1).bind fun record =>
      claim.2.map fun overrides => (record, record.attributes.overlay overrides)

variable {roster roster' : Roster} {position : Nat}

theorem mem_updates {claims : List (Nat × Option AttributeMap)} {write : Record × AttributeMap}
    (h : write ∈ roster.updates claims) :
    ∃ position overrides, (position, some overrides) ∈ claims ∧
      ∃ record, roster.record? position = some record ∧
        write = (record, record.attributes.overlay overrides) := by
  obtain ⟨⟨position, overrides?⟩, hc, h⟩ := List.mem_filterMap.mp h
  obtain ⟨record, hr, h⟩ := Option.bind_eq_some_iff.mp h
  obtain ⟨overrides, ho, rfl⟩ := Option.map_eq_some_iff.mp h
  dsimp only at hr ho
  exact ⟨position, overrides, ho ▸ hc, record, hr, rfl⟩

theorem updates_congr {claims : List (Nat × Option AttributeMap)}
    (h : ∀ claim ∈ claims, roster'.record? claim.1 = roster.record? claim.1) :
    roster'.updates claims = roster.updates claims := by
  unfold updates
  apply List.filterMap_congr
  intro claim hc
  rw [h claim hc]

theorem updates_cons (roster : Roster) (claim : Nat × Option AttributeMap)
    (claims : List (Nat × Option AttributeMap)) :
    roster.updates (claim :: claims) = roster.updates [claim] ++ roster.updates claims := by
  unfold updates
  rw [← List.filterMap_append]
  rfl

theorem claimsFrom_cons (position : Nat) (overrides : Option AttributeMap)
    (rest : List (Option AttributeMap)) :
    claimsFrom position (overrides :: rest) =
      (position, overrides) :: claimsFrom (position + 1) rest := by
  unfold claimsFrom
  rw [List.length_cons, List.range'_succ, List.zip_cons_cons]

theorem le_of_mem_claimsFrom {overrides : List (Option AttributeMap)}
    {claim : Nat × Option AttributeMap} (h : claim ∈ claimsFrom position overrides) :
    position ≤ claim.1 :=
  (List.mem_range'_1.mp (List.of_mem_zip h).1).1

theorem updates_none (roster : Roster) (position : Nat) :
    roster.updates [(position, none)] = [] := by
  unfold updates
  rw [List.filterMap_cons_none, List.filterMap_nil]
  cases roster.record? position <;> rfl

theorem record?_of_instances (h : roster'.instances = roster.instances) (p : Nat) :
    roster'.record? p = roster.record? p := by
  unfold record? instance?
  rw [h]

end Roster

/-! ## Hash forms on a bench -/

namespace Bench

theorem build_updated {σ : Type} (factory : Factory) (overrides : AttributeMap) (bench : Bench σ) :
    let left := after (build factory overrides) bench
    left.store = bench.store ∧ ∀ p, left.roster.record? p = bench.roster.record? p := by
  unfold after
  rw [build_eq]
  cases Counters.upcoming factory bench.counters with
  | error error => exact ⟨rfl, fun _ => rfl⟩
  | ok attributes =>
    refine ⟨rfl, fun p => ?_⟩
    unfold Roster.record?
    rw [Roster.instance?_push]
    -- The new instance has no record, and there was none where it is.
    by_cases hp : p = bench.roster.size
    · rw [if_pos hp, hp, Roster.instance?_size]
      rfl
    · rw [if_neg hp]

variable {σ : Type} [RecordStore σ] {factory : Factory} {bench middle left : Bench σ}
  {writes writes' : List (Record × AttributeMap)}

/-- The store has been through replacements, and the same instances have records as before. -/
structure Updated (writes : List (Record × AttributeMap)) (bench left : Bench σ) : Prop where
  store : left.store = replaceAll writes bench.store
  saved : ∀ p, (left.roster.record? p).isSome = (bench.roster.record? p).isSome

theorem Updated.refl (bench : Bench σ) : Updated [] bench bench := ⟨rfl, fun _ => rfl⟩

theorem Updated.trans (h : Updated writes bench middle) (h' : Updated writes' middle left) :
    Updated (writes ++ writes') bench left := by
  refine ⟨?_, fun p => (h'.saved p).trans (h.saved p)⟩
  rw [replaceAll_append, ← h.store]
  exact h'.store

/-- Marks in the roster are nothing to the store. -/
theorem Updated.mark (h : Updated writes bench middle) {roster : Roster}
    (hm : roster.instances = middle.roster.instances) :
    Updated writes bench { middle with roster } :=
  ⟨h.store, fun p => by rw [← h.saved p, Roster.record?_of_instances hm]⟩

/-- What the operation ought to write it has written, or a part of it if it failed. -/
def Writes (writes : List (Record × AttributeMap)) {α : Type}
    (result : EStateM.Result Error (Bench σ) α) (bench : Bench σ) : Prop :=
  Ends result (fun _ left => Updated writes bench left)
    fun _ left => ∃ done, done <+: writes ∧ Updated done bench left

theorem Updated.andThen {α : Type} {result : EStateM.Result Error (Bench σ) α}
    (h : Updated writes bench middle) (hr : Writes writes' result middle) :
    Writes (writes ++ writes') result bench := by
  apply Ends.mono hr
  · intro _ left hl
    exact h.trans hl
  · rintro _ left ⟨done, hd, hl⟩
    exact ⟨writes ++ done, (List.prefix_append_right_inj writes).mpr hd, h.trans hl⟩

/-- Overrides for an instance with a record replace the record once, and overrides for one without
touch nothing but the instance. -/
theorem override_updated {position : Nat} {item : Instance} (overrides : AttributeMap)
    (hi : bench.roster.instance? position = some item) :
    let left :=
      bench.withInstance position (after (Instance.override overrides) (item, bench.store))
    Updated (bench.roster.updates [(position, some overrides)]) bench left ∧
      ∀ p, p ≠ position → left.roster.record? p = bench.roster.record? p := by
  have hrecord : bench.roster.record? position = item.record := by
    unfold Roster.record?
    rw [hi, Option.bind_some]
  have hleft : ∀ (pair : Instance × σ) p,
      (bench.withInstance position pair).roster.record? p =
        if p = position then pair.1.record else bench.roster.record? p := by
    intro pair p
    show ((bench.roster.setInstance position pair.1).instance? p).bind _ = _
    rw [Roster.instance?_setInstance hi]
    by_cases hp : p = position
    · rw [if_pos hp, if_pos hp, Option.bind_some]
    · rw [if_neg hp, if_neg hp]
      rfl
  have hsaved : ∀ pair : Instance × σ, pair.1.record.isSome = item.record.isSome → ∀ p,
      ((bench.withInstance position pair).roster.record? p).isSome =
        (bench.roster.record? p).isSome := by
    intro pair hpair p
    rw [hleft]
    by_cases hp : p = position
    · rw [if_pos hp, hp, hrecord, hpair]
    · rw [if_neg hp]
  refine ⟨?_, fun p hp => by rw [hleft, if_neg hp]⟩
  unfold Roster.updates
  cases hr : item.record with
  | none =>
    have ho : Instance.override overrides (item, bench.store) = .ok () _ :=
      Instance.revise_of_none overrides bench.store hr
    rw [after_of_ok ho]
    refine ⟨?_, hsaved _ rfl⟩
    rw [List.filterMap_cons_none (by rw [hrecord, hr]; rfl)]
    rfl
  | some record =>
    have ho : Instance.override overrides (item, bench.store) = _ :=
      Instance.revise_of_some overrides bench.store (by exact hr)
    rw [List.filterMap_cons_some (by rw [hrecord, hr]; rfl)]
    cases hs : RecordStore.replace record (record.attributes.overlay overrides) bench.store with
    | ok found store =>
      rw [hs] at ho
      rw [after_of_ok ho]
      exact ⟨(after_of_ok hs).symm, hsaved _ (by rw [hr]; rfl)⟩
    | error error store =>
      rw [hs] at ho
      rw [after_of_error ho]
      exact ⟨(after_of_error hs).symm, hsaved _ rfl⟩

theorem prepare_updated (factory : Factory) (position : Nat) (overrides : Option AttributeMap)
    (bench : Bench σ) :
    let left := after (prepare factory position overrides) bench
    Updated (bench.roster.updates [(position, overrides)]) bench left ∧
      ∀ p, p ≠ position → left.roster.record? p = bench.roster.record? p := by
  show let left := after (if position < bench.roster.size then _ else _) bench
    Updated (bench.roster.updates [(position, overrides)]) bench left ∧
      ∀ p, p ≠ position → left.roster.record? p = bench.roster.record? p
  by_cases hlt : position < bench.roster.size
  · rw [if_pos hlt]
    obtain ⟨item, hi⟩ := Option.isSome_iff_exists.mp (Roster.lt_size_iff.mp hlt)
    cases overrides with
    | none =>
      rw [Roster.updates_none]
      exact ⟨Updated.refl bench, fun _ _ => rfl⟩
    | some overrides =>
      have ho := override_updated overrides hi
      rw [← after_override_read, ← after_onInstance _ hi] at ho
      dsimp only
      rw [discard_eq_bind, after_bind_pure]
      exact ho
  · rw [if_neg hlt]
    obtain ⟨hstore, hrecords⟩ := build_updated factory (overrides.getD ∅) bench
    have hnone : bench.roster.record? position = none := by
      unfold Roster.record?
      cases hi : bench.roster.instance? position with
      | none => rfl
      | some item => exact absurd (Roster.lt_size_iff.mpr (by rw [hi]; rfl)) hlt
    have hupdates : bench.roster.updates [(position, overrides)] = [] := by
      unfold Roster.updates
      rw [List.filterMap_cons_none (by rw [hnone]; rfl), List.filterMap_nil]
    rw [hupdates]
    exact ⟨⟨hstore, fun p => by rw [hrecords]⟩, fun p _ => hrecords p⟩

theorem claimFrom_writes (factory : Factory) (position : Nat)
    (overrides : List (Option AttributeMap)) (bench : Bench σ) :
    Writes (bench.roster.updates (Roster.claimsFrom position overrides))
      (claimFrom factory false position overrides bench) bench := by
  induction overrides generalizing bench position with
  | nil => exact Updated.refl bench
  | cons overrides rest ih =>
    obtain ⟨hu, hothers⟩ := prepare_updated factory position overrides bench
    rw [Roster.claimsFrom_cons, Roster.updates_cons]
    unfold claimFrom
    cases hp : prepare factory position overrides bench with
    | error error left =>
      rw [bind_of_error hp]
      rw [after_of_error hp] at hu
      exact ⟨_, List.prefix_append _ _, hu⟩
    | ok _ middle =>
      rw [bind_of_ok hp]
      rw [after_of_ok hp] at hu hothers
      have hinstances := withClaimed_instances middle.roster false (position + 1)
      have hrest := ih (position + 1)
        { middle with roster := middle.roster.withClaimed false (position + 1) }
      -- The positions that follow still have the records that they had in the beginning.
      have hlater : (middle.roster.withClaimed false (position + 1)).updates
          (Roster.claimsFrom (position + 1) rest) =
            bench.roster.updates (Roster.claimsFrom (position + 1) rest) := by
        apply Roster.updates_congr
        intro claim hc
        have hle := Roster.le_of_mem_claimsFrom hc
        rw [Roster.record?_of_instances hinstances]
        exact hothers claim.1 (by omega)
      rw [hlater] at hrest
      exact (hu.mark hinstances).andThen hrest

theorem declareSingleton_writes (factory : Factory) (overrides : Option AttributeMap)
    (bench : Bench σ) :
    Writes (bench.roster.updates [(bench.roster.singleton.getD 0, overrides)])
      (declareSingleton factory overrides false bench) bench := by
  obtain ⟨hu, -⟩ := prepare_updated factory (bench.roster.singleton.getD 0) overrides bench
  show Writes _ ((if bench.roster.singleton = none ∧ 2 ≤ bench.roster.size then _ else _ :
    EStateM Error (Bench σ) Nat) bench) bench
  by_cases hs : bench.roster.singleton = none ∧ 2 ≤ bench.roster.size
  · rw [if_pos hs]
    exact ⟨[], List.nil_prefix, Updated.refl bench⟩
  · rw [if_neg hs]
    cases hp : prepare factory (bench.roster.singleton.getD 0) overrides bench with
    | error error left =>
      rw [bind_of_error hp]
      rw [after_of_error hp] at hu
      exact ⟨_, List.prefix_rfl, hu⟩
    | ok _ middle =>
      rw [bind_of_ok hp]
      rw [after_of_ok hp] at hu
      exact hu.mark rfl

theorem declareCollection_writes (factory : Factory) (overrides : List (Option AttributeMap))
    (bench : Bench σ) :
    Writes (bench.roster.updates (Roster.claimsFrom bench.roster.hashesClaimed overrides))
      (declareCollection factory overrides false bench) bench := by
  have hm : Updated [] bench
      { bench with roster := { bench.roster with hasCollection := true } } :=
    (Updated.refl bench).mark rfl
  have hc := claimFrom_writes factory bench.roster.hashesClaimed overrides
    { bench with roster := { bench.roster with hasCollection := true } }
  show Writes _ ((claimFrom factory false bench.roster.hashesClaimed overrides >>= fun _ => _ :
    EStateM Error (Bench σ) (List Nat))
    { bench with roster := { bench.roster with hasCollection := true } }) bench
  exact Ends.bind (hm.andThen hc) fun _ _ h => h

/-- A hash form writes what its overrides come to, and a part of it if it fails. -/
theorem declare_writes (factory : Factory) (name : String) {form : Form} (arguments : Arguments)
    (hf : form.isHash = true) (bench : Bench σ) :
    Writes (bench.roster.updates (bench.roster.claims form arguments))
      (declare factory name form arguments bench) bench := by
  have hone : ∀ overrides,
      Writes (bench.roster.updates [(bench.roster.singleton.getD 0, overrides)])
        ((do return [← declareSingleton factory overrides false] :
          EStateM Error (Bench σ) (List Nat)) bench) bench :=
    fun overrides => Ends.bind (declareSingleton_writes factory overrides bench) fun _ _ h => h
  unfold declare Roster.claims
  rw [hf]
  generalize form.isCollection = several
  cases several with
  | false =>
    cases arguments with
    | none => exact hone none
    | count number => exact ⟨[], List.nil_prefix, Updated.refl bench⟩
    | overrides maps =>
      rcases maps with _ | ⟨map, _ | ⟨map', maps⟩⟩
      · exact ⟨[], List.nil_prefix, Updated.refl bench⟩
      · exact hone (some map)
      · exact ⟨[], List.nil_prefix, Updated.refl bench⟩
  | true =>
    cases arguments with
    | none => exact (Updated.refl bench).mark rfl
    | count number => exact declareCollection_writes factory _ bench
    | overrides maps => exact declareCollection_writes factory _ bench

end Bench

/-! ## Hash forms in a block -/

namespace Block

variable {σ : Type} [RecordStore σ]

/-- A hash form writes what its overrides come to, or a part of it, and leaves the same instances
with records as before. -/
theorem declare_updated {block : Block σ} {name factory : String} {form : Form}
    (arguments : Arguments) (hr : block.workshop.resolveName name = .ok (factory, form))
    (hf : form.isHash = true) :
    let roster := (block.bench factory).roster
    let left := after (declare name arguments) block
    ∃ writes, writes <+: roster.updates (roster.claims form arguments) ∧
      left.store = replaceAll writes block.store ∧
      ∀ name position, (left.record? name position).isSome =
        (block.record? name position).isSome := by
  intro roster left
  have hbench : ∀ {writes} {bench : Bench σ}, Bench.Updated writes (block.bench factory) bench →
      (block.setBench factory bench).store = replaceAll writes block.store ∧
        ∀ name position, ((block.setBench factory bench).record? name position).isSome =
          (block.record? name position).isSome := by
    intro writes bench hu
    refine ⟨hu.store, fun name position => ?_⟩
    rw [record?_setBench]
    by_cases hn : name = factory
    · rw [if_pos hn, hu.saved, record?_bench, hn]
    · rw [if_neg hn]
  have hd := declare_eq name arguments block
  rw [hr] at hd
  dsimp only at hd
  cases hc : block.workshop.catalog.factory factory with
  | error error =>
    rw [hc] at hd
    have hleft : left = block := after_of_error hd
    rw [hleft]
    exact ⟨[], List.nil_prefix, rfl, fun _ _ => rfl⟩
  | ok found =>
    rw [hc] at hd
    dsimp only at hd
    have hw := Bench.declare_writes found name arguments hf (block.bench factory)
    cases hb : Bench.declare found name form arguments (block.bench factory) with
    | ok positions bench =>
      rw [hb] at hd hw
      have hleft : left = block.setBench factory bench := after_of_ok hd
      rw [hleft]
      exact ⟨_, List.prefix_rfl, hbench hw⟩
    | error error bench =>
      rw [hb] at hd hw
      obtain ⟨writes, hp, hu⟩ := hw
      have hleft : left = block.setBench factory bench := after_of_error hd
      rw [hleft]
      exact ⟨writes, hp, hbench hu⟩

end Block

end Fixtures
