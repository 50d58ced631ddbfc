import Fixtures.Proofs.Factory.Sequences
import Fixtures.Proofs.Roster.Order

/-!
# Declarations that no constraint refuses

Where a factory suits the database, it never gives the same value to a unique field of two instances
whose indices differ, and no sequence ever looks like a key.  So the rows of its model and the
instances that are not saved stay apart in the unique fields (`Bench.Sequenced`), and the database
takes whatever a declaration without overrides saves (`Bench.declare_unrefused`).
-/

namespace Fixtures

theorem Value.eq_of_same_int {id : Int} {value : Value} (h : (Value.int id).same value = true) :
    value = .int id := by
  cases value with
  | int n =>
    unfold same at h
    rw [eq_of_beq h]
  | null | bool | float | text | list | object => cases h

namespace Factory

/-- In unique fields the attributes have what the factory defines at an index below `next`, or else
a key. -/
def Numbers (factory : Factory) (db : Database) (next : Nat) (attributes : AttributeMap) : Prop :=
  ∀ field ∈ Database.fieldsOf factory.model db.unique,
    (∃ index, index < next ∧ attributes.get? field = factory.valueAt? field index) ∨
      ∃ id, attributes.get? field = some (.int id)

/-- The attributes can be saved next to the rows of the model. -/
structure Welcomes (factory : Factory) (db : Database) (next : Nat) (attributes : AttributeMap) :
    Prop where
  numbered : factory.Numbers db next attributes
  filled : ∀ field ∈ Database.fieldsOf factory.model db.required,
    ∃ value, attributes.get? field = some value ∧ value.isNull = false
  apart : ∀ field ∈ Database.fieldsOf factory.model db.unique,
    ∀ row ∈ db.all factory.model, ¬SortedMap.Share field row.attributes attributes

variable {factory : Factory} {db db' : Database} {next : Nat}
  {attributes attributes' : AttributeMap}

theorem Numbers.mono (h : factory.Numbers db next attributes) {next' : Nat} (hn : next ≤ next') :
    factory.Numbers db next' attributes := by
  intro field hf
  rcases h field hf with ⟨index, hlt, he⟩ | hkey
  · exact Or.inl ⟨index, Nat.lt_of_lt_of_le hlt hn, he⟩
  · exact Or.inr hkey

theorem Numbers.of_unique (h : factory.Numbers db next attributes) (hu : db'.unique = db.unique) :
    factory.Numbers db' next attributes := by
  unfold Numbers
  rw [hu]
  exact h

theorem Welcomes.mono (h : factory.Welcomes db next attributes) {next' : Nat} (hn : next ≤ next') :
    factory.Welcomes db next' attributes :=
  ⟨h.numbered.mono hn, h.filled, h.apart⟩

/-- The attributes stay welcome beside a new row that is different. -/
theorem Welcomes.of_push (h : factory.Welcomes db next attributes) {row : Record}
    (hu : db'.unique = db.unique) (hq : db'.required = db.required)
    (hr : db'.all factory.model = db.all factory.model ++ [row])
    (ha : ∀ field ∈ Database.fieldsOf factory.model db.unique,
      ¬SortedMap.Share field row.attributes attributes) :
    factory.Welcomes db' next attributes := by
  refine ⟨h.numbered.of_unique hu, ?_, ?_⟩
  · rw [hq]
    exact h.filled
  · rw [hu, hr]
    intro field hf other ho
    rw [List.mem_append, List.mem_singleton] at ho
    rcases ho with ho | rfl
    · exact h.apart field hf other ho
    · exact ha field hf

/-- What the factory defines at the next index is new. -/
theorem Numbers.not_share (h : factory.Numbers db next attributes) (hs : factory.Suits db)
    {field : String} (hf : field ∈ Database.fieldsOf factory.model db.unique)
    (ha : factory.attributesAt next = .ok attributes') :
    ¬SortedMap.Share field attributes attributes' := by
  rintro ⟨value, value', hv, hv', hsame⟩
  rw [get?_attributesAt ha] at hv'
  rcases h field hf with ⟨index, hlt, he⟩ | ⟨id, he⟩
  · rw [he] at hv
    rw [hs.apart hf hv hv' (Nat.ne_of_lt hlt)] at hsame
    cases hsame
  · -- A sequence is a text and no key.
    cases he.symm.trans hv
    cases Value.eq_of_same_int hsame
    obtain ⟨expression, hexpression, hvalue⟩ := Option.bind_eq_some_iff.mp hv'
    obtain ⟨text, rfl, -⟩ := hs.template? hf hexpression
    cases hvalue

theorem Welcomes.violation? (h : factory.Welcomes db next attributes) :
    db.violation? factory.model attributes none = none := by
  rw [Database.violation?_eq_none_iff, Database.blankField?_eq_none_iff,
    Database.takenField?_eq_none_iff]
  exact ⟨h.filled, fun field hf row hr _ => h.apart field hf row hr⟩

end Factory

theorem Database.exists_insert {db : Database} {model : String} {attributes : AttributeMap}
    (h : db.violation? model attributes none = none) :
    ∃ created left, Database.insert model attributes db = .ok created left ∧
      created.attributes = attributes ∧ left.all model = db.all model ++ [created] ∧
      left.unique = db.unique ∧ left.required = db.required := by
  refine ⟨_, _, insert_eq_ok_iff.mpr ⟨h, rfl, rfl⟩, rfl, ?_, rfl, rfl⟩
  unfold all
  rw [table_with_insert, if_pos rfl]

namespace Bench

/-- Of the rows of the factory's model and the instances that are not saved no two have the same
value in a unique field. -/
structure Sequenced (factory : Factory) (bench : Bench Database) : Prop where
  suits : factory.Suits bench.store
  -- Rows come from instances.
  origin : bench.roster.instances = [] → bench.store.all factory.model = []
  rows : Table.Constrained (Database.fieldsOf factory.model bench.store.unique)
    (Database.fieldsOf factory.model bench.store.required) (bench.store.all factory.model)
  numbered : ∀ row ∈ bench.store.all factory.model,
    factory.Numbers bench.store (bench.counters.current factory.name) row.attributes
  waiting : ∀ position item, bench.roster.instance? position = some item → item.record = none →
    factory.Welcomes bench.store (bench.counters.current factory.name) item.attributes
  apart : ∀ p q item item', p ≠ q → bench.roster.instance? p = some item →
    bench.roster.instance? q = some item' → item.record = none → item'.record = none →
      ∀ field ∈ Database.fieldsOf factory.model bench.store.unique,
        ¬SortedMap.Share field item.attributes item'.attributes

variable {factory : Factory} {bench : Bench Database}

theorem sequenced_of_empty (hs : factory.Suits bench.store)
    (hr : bench.store.all factory.model = []) (hi : bench.roster.instances = []) :
    bench.Sequenced factory := by
  have hnone : ∀ p item, bench.roster.instance? p ≠ some item := by
    intro p item hp
    unfold Roster.instance? at hp
    rw [hi] at hp
    cases hp
  refine ⟨hs, fun _ => hr, hr ▸ Table.Constrained.empty _ _, fun row hrow => ?_,
    fun p item hp => absurd hp (hnone p item), fun p _ item _ _ hp => absurd hp (hnone p item)⟩
  rw [hr] at hrow
  cases hrow

theorem Sequenced.mark (h : bench.Sequenced factory) {roster : Roster}
    (hi : roster.instances = bench.roster.instances) :
    ({ bench with roster } : Bench Database).Sequenced factory := by
  have hp : ∀ p, roster.instance? p = bench.roster.instance? p := by
    intro p
    unfold Roster.instance?
    rw [hi]
  refine ⟨h.suits, fun hnil => h.origin (hi ▸ hnil), h.rows, h.numbered, fun p item hp' => ?_,
    fun p q item item' hpq hp' hq' => ?_⟩
  · exact h.waiting p item ((hp p).symm.trans hp')
  · exact h.apart p q item item' hpq ((hp p).symm.trans hp') ((hp q).symm.trans hq')

theorem Sequenced.advance (h : bench.Sequenced factory)
    (hroom : bench.counters.current factory.name + 1 < UInt64.size) :
    ({ bench with counters := bench.counters.advance factory.name 1 } :
      Bench Database).Sequenced factory := by
  have hle : bench.counters.current factory.name ≤
      (bench.counters.advance factory.name 1).current factory.name :=
    Counters.current_advance_of_lt hroom ▸ Nat.le_add_right _ 1
  exact ⟨h.suits, h.origin, h.rows, fun row hr => (h.numbered row hr).mono hle,
    fun p item hp hr => (h.waiting p item hp hr).mono hle, h.apart⟩

theorem Sequenced.spend (h : bench.Sequenced factory) :
    let left : Bench Database := { bench with counters := bench.counters.advance factory.name 1 }
    left.Sequenced factory ∨ left.Wrapped factory.name := by
  rcases room_or_wrapped factory.name bench with hroom | hnil | hwrapped
  · exact Or.inl (h.advance hroom)
  · exact Or.inl (sequenced_of_empty h.suits (h.origin hnil) hnil)
  · exact Or.inr hwrapped

/-- A new instance shows its index in the unique fields, and no other instance and no row does. -/
theorem Sequenced.build (h : bench.Sequenced factory) {attributes : AttributeMap}
    (ha : Counters.upcoming factory bench.counters = .ok attributes) :
    ({ bench with
      counters := bench.counters.advance factory.name 1
      roster := bench.roster.push { index := bench.counters.current factory.name, attributes } } :
        Bench Database).Sequenced factory := by
  obtain ⟨hroom, hattributes⟩ := Counters.upcoming_eq_ok_iff.mp ha
  have hnext := Counters.current_advance_of_lt hroom
  have hadvance := h.advance hroom
  have hnew : factory.Welcomes bench.store
      ((bench.counters.advance factory.name 1).current factory.name) attributes := by
    refine ⟨fun field hf => Or.inl ⟨bench.counters.current factory.name, by omega,
      Factory.get?_attributesAt hattributes field⟩, fun field hf => ?_, fun field hf row hr => ?_⟩
    · rw [Factory.get?_attributesAt hattributes field]
      exact h.suits.filled hf _
    · exact (h.numbered row hr).not_share h.suits hf hattributes
  have hold : ∀ p item, bench.roster.instance? p = some item → item.record = none →
      ∀ field ∈ Database.fieldsOf factory.model bench.store.unique,
        ¬SortedMap.Share field item.attributes attributes := fun p item hp hr field hf =>
    (h.waiting p item hp hr).numbered.not_share h.suits hf hattributes
  refine ⟨h.suits, fun hnil => ?_, h.rows, hadvance.numbered, fun p item hp hr => ?_,
    fun p q item item' hpq hp hq hr hr' field hf => ?_⟩
  · exact absurd hnil (List.append_ne_nil_of_right_ne_nil _ (List.cons_ne_nil _ _))
  · rw [Roster.instance?_push] at hp
    split at hp
    · cases hp
      exact hnew
    · exact hadvance.waiting p item hp hr
  · rw [Roster.instance?_push] at hp hq
    split at hp
    · rename_i hlast
      cases hp
      rw [if_neg (hlast ▸ hpq.symm)] at hq
      exact fun hs => hold q item' hq hr' field hf hs.symm
    · split at hq
      · cases hq
        exact hold p item hp hr field hf
      · exact h.apart p q item item' hpq hp hq hr hr' field hf

/-- An instance that was waiting is saved, next to the rows that there are. -/
theorem Sequenced.insert (h : bench.Sequenced factory) {position : Nat} {item : Instance}
    (hi : bench.roster.instance? position = some item) (hr : item.record = none) :
    ∃ created left, Database.insert factory.model item.attributes bench.store = .ok created left ∧
      (bench.withInstance position ({ item with record := some created }, left)).Sequenced
        factory := by
  have hw := h.waiting position item hi hr
  obtain ⟨created, left, hinsert, ha, hrows, hu, hq⟩ := Database.exists_insert hw.violation?
  have hold : ∀ p found,
      (bench.roster.setInstance position { item with record := some created }).instance? p =
        some found → found.record = none →
          p ≠ position ∧ bench.roster.instance? p = some found := by
    intro p found hp hn
    rw [Roster.instance?_setInstance hi] at hp
    split at hp
    · cases hp
      cases hn
    · rename_i hne
      exact ⟨hne, hp⟩
  refine ⟨created, left, hinsert, h.suits.of_constraints hu hq, fun hnil => ?_, ?_,
    fun row hrow => ?_, fun p found hp hn => ?_, fun p q found found' hpq hp hq' hn hn' => ?_⟩
  · have hnone : (bench.roster.setInstance position
        { item with record := some created }).instance? position = none :=
      (congrArg (·[position]?) hnil).trans rfl
    rw [Roster.instance?_setInstance hi, if_pos rfl] at hnone
    cases hnone
  · show Table.Constrained (Database.fieldsOf factory.model left.unique)
      (Database.fieldsOf factory.model left.required) (left.all factory.model)
    rw [hu, hq, hrows]
    apply h.rows.push
    rw [ha]
    exact ⟨hw.filled, fun field hf i row _ hrow =>
      hw.apart field hf row (List.mem_of_getElem? hrow)⟩
  · change row ∈ left.all factory.model at hrow
    rw [hrows, List.mem_append, List.mem_singleton] at hrow
    rcases hrow with hrow | rfl
    · exact (h.numbered row hrow).of_unique hu
    · exact (ha ▸ hw.numbered).of_unique hu
  · obtain ⟨hne, hfound⟩ := hold p found hp hn
    -- The new row is as the instance was that is saved.
    refine (h.waiting p found hfound hn).of_push hu hq hrows ?_
    rw [ha]
    exact h.apart position p item found (Ne.symm hne) hi hfound hr hn
  · show ∀ field ∈ Database.fieldsOf factory.model left.unique, _
    rw [hu]
    exact h.apart p q found found' hpq (hold p found hp hn).2 (hold q found' hq' hn').2 hn hn'

/-! ## Declarations -/

/-- The bench stays in order, or else its counter is back at zero, and whatever may fail, the store
has not refused to write. -/
def Unrefused (factory : Factory) {α : Type} (operation : EStateM Error (Bench Database) α) :
    Prop :=
  ∀ bench, bench.Sequenced factory →
    Ends (operation bench) (fun _ left => left.Sequenced factory) fun error left =>
      (left.Sequenced factory ∨ left.Wrapped factory.name) ∧ ∀ refusal, error ≠ .store refusal

theorem Unrefused.build (hb : factory.hooks.afterBuild = none) :
    Unrefused factory (build factory ∅) := by
  intro bench h
  rw [build_eq]
  cases ha : Counters.upcoming factory bench.counters with
  | error error =>
    obtain ⟨index, field, message, rfl⟩ := Counters.upcoming_eq_error ha
    exact ⟨h.spend, nofun⟩
  | ok attributes =>
    unfold Factory.finish
    rw [hb]
    exact h.build ha

theorem Unrefused.save (hc : factory.hooks.afterCreate = none) (position : Nat) :
    Unrefused factory (onRoster (Roster.onInstance position (Instance.save factory))) := by
  intro bench h
  cases hi : bench.roster.instance? position with
  | none =>
    rw [onInstance_of_none _ hi]
    exact ⟨Or.inl h, nofun⟩
  | some item =>
    rw [onInstance_of_some _ hi]
    cases hr : item.record with
    | some record =>
      rw [Instance.save_of_some factory _ hr]
      show Sequenced factory (bench.withInstance position (item, bench.store))
      unfold withInstance
      rw [Roster.setInstance_self hi]
      exact h
    | none =>
      obtain ⟨created, left, hinsert, hs⟩ := h.insert hi hr
      have hins : RecordStore.insert factory.model item.attributes bench.store =
          .ok created left := hinsert
      rw [Instance.save_of_none factory _ hr, hins]
      unfold Factory.afterCreating
      rw [hc]
      dsimp only
      rw [if_pos (SortedMap.sameValues_refl _)]
      exact hs

theorem unrefused_parallel (hh : factory.hooks = {}) :
    Parallel (σ := Database) (τ := Database) factory (fun _ => False) True fun _ operation _ =>
      Unrefused factory operation where
  pure _ _ h := h
  bind hf hn bench h := (hf bench h).bind fun answer left hl => hn answer left hl
  read _ _ hp bench h := hp bench bench rfl bench h
  override _ _ hg := hg.elim
  save _ := Unrefused.save (by rw [hh])
  build overrides ho := by
    rw [ho.resolve_right id]
    exact Unrefused.build (by rw [hh])
  mark hm := fun bench h => h.mark (hm.instances bench.roster)

/-- A declaration without overrides saves nothing that the database refuses. -/
theorem declare_unrefused (hh : factory.hooks = {}) (name : String) (form : Form)
    {arguments : Arguments} (hm : arguments.maps = []) :
    Unrefused factory (declare factory name form arguments) := by
  apply (unrefused_parallel hh).declare _ name
  · intro map hmap
    rw [hm] at hmap
    cases hmap
  · exact fun _ => trivial
  · intro α error he bench h
    refine ⟨Or.inl h, ?_⟩
    rintro refusal rfl
    cases he

end Bench

end Fixtures
