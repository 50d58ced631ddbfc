import Fixtures.Proofs.Block.Commute
import Fixtures.Proofs.Block.Order
import Fixtures.Proofs.Block.References
import Fixtures.Proofs.Roster.Sequences

/-!
# Sequences satisfy uniqueness

A block in which only the declarations of a factory write to its model has rows that differ in the
unique fields, if the factory suits the database (`Block.sequences_keep_apart`).  The rows of the
other models do not matter, nor does what is linked to what, as long as no link gives the same key
to two instances in a unique field.  Such keys are saved with the instances, and then two instances
with the same one are too many (`Block.linked_key_taken`).
-/

namespace Fixtures

/-! ## Keys that links write -/

/-- Keys are whole numbers. -/
def Value.isKey : Value → Bool
  | .int _ => true
  | .null | .bool _ | .float _ | .text _ | .list _ | .object _ => false

/-- Two attribute maps have the same key in a field. -/
def SortedMap.ShareKey (field : String) (attributes attributes' : AttributeMap) : Prop :=
  ∃ id, attributes.get? field = some (.int id) ∧ attributes'.get? field = some (.int id)

namespace SortedMap

variable {field : String} {attributes attributes' : AttributeMap}

instance : Decidable (ShareKey field attributes attributes') :=
  decidable_of_iff (∃ value ∈ attributes.get? field,
      value.isKey = true ∧ attributes'.get? field = some value) <| by
    constructor
    · rintro ⟨value, hv, hkey, hv'⟩
      cases value with
      | int => exact ⟨_, hv, hv'⟩
      | null | bool | float | text | list | object => cases hkey
    · rintro ⟨id, hid, hid'⟩
      exact ⟨_, hid, rfl, hid'⟩

theorem ShareKey.share (h : ShareKey field attributes attributes') :
    Share field attributes attributes' := by
  obtain ⟨id, hid, hid'⟩ := h
  exact ⟨_, _, hid, hid', Value.same_refl _⟩

theorem ShareKey.symm (h : ShareKey field attributes attributes') :
    ShareKey field attributes' attributes := by
  obtain ⟨id, hid, hid'⟩ := h
  exact ⟨id, hid', hid⟩

/-- Nothing is the same as a key but the key. -/
theorem Share.shareKey (h : Share field attributes attributes') {id : Int}
    (hid : attributes.get? field = some (.int id)) : ShareKey field attributes attributes' := by
  obtain ⟨value, value', hv, hv', hs⟩ := h
  cases hid.symm.trans hv
  cases Value.eq_of_same_int hs
  exact ⟨id, hid, hv'⟩

/-- What is shared with a map that may have got a key is the key, or was shared with the old map. -/
theorem Share.of_keyed {old : AttributeMap} (h : Share field attributes attributes')
    (hk : attributes'.get? field = old.get? field ∨
      ∃ id, attributes'.get? field = some (.int id)) :
    ShareKey field attributes attributes' ∨ Share field attributes old := by
  rcases hk with he | ⟨id, hid⟩
  · obtain ⟨value, value', hv, hv', hs⟩ := h
    exact Or.inr ⟨value, value', hv, he ▸ hv', hs⟩
  · exact Or.inl (h.symm.shareKey hid).symm

end SortedMap

/-- What links leave of an instance: they give it keys, and no record. -/
structure Instance.Keyed (item item' : Instance) : Prop where
  record : item'.record = none → item.record = none
  fields : ∀ field, item'.attributes.get? field = item.attributes.get? field ∨
    ∃ id, item'.attributes.get? field = some (.int id)

namespace Instance

theorem not_isPersisted_iff {item : Instance} :
    (!item.isPersisted) = true ↔ item.record = none := by
  rw [Bool.not_eq_true', isPersisted, Option.isSome_eq_false_iff, Option.isNone_iff_eq_none]

theorem Keyed.refl (item : Instance) : item.Keyed item := ⟨id, fun _ => Or.inl rfl⟩

theorem Keyed.trans {item item' item'' : Instance} (h : item.Keyed item')
    (h' : item'.Keyed item'') : item.Keyed item'' := by
  refine ⟨fun hr => h.record (h'.record hr), fun field => ?_⟩
  rcases h'.fields field with he | hkey
  · rw [he]
    exact h.fields field
  · exact Or.inr hkey

/-- What two instances share that may have got keys is a key, or they shared it before. -/
theorem Keyed.share {item item' other other' : Instance} (h : item.Keyed item')
    (h' : other.Keyed other') {field : String}
    (hs : SortedMap.Share field item'.attributes other'.attributes) :
    SortedMap.ShareKey field item'.attributes other'.attributes ∨
      SortedMap.Share field item.attributes other.attributes := by
  rcases hs.of_keyed (h'.fields field) with hkey | hold
  · exact Or.inl hkey
  · rcases hold.symm.of_keyed (h.fields field) with ⟨id, -, hid⟩ | hold
    · exact Or.inl (hs.shareKey hid)
    · exact Or.inr hold.symm

theorem keyed_revise {σ : Type} [RecordStore σ] (item : Instance) (field : String) (id : Int)
    (store : σ) :
    item.Keyed (after (revise (SortedMap.insert ∅ field (.int id))) (item, store)).1 := by
  have hk : item.Keyed (item.revised (SortedMap.insert ∅ field (.int id))) := by
    refine ⟨fun hr => hr, fun other => ?_⟩
    show (item.attributes.insert field (.int id)).get? other = _ ∨
      ∃ key, (item.attributes.insert field (.int id)).get? other = _
    rw [SortedMap.get?_insert]
    split
    · exact Or.inr ⟨id, rfl⟩
    · exact Or.inl rfl
  cases hr : item.record with
  | none =>
    rw [after_of_ok (revise_of_none _ store hr)]
    exact hk
  | some record =>
    have he := revise_of_some (SortedMap.insert ∅ field (.int id)) store hr
    cases hs : RecordStore.replace record
      (record.attributes.overlay (SortedMap.insert ∅ field (.int id))) store with
    | ok found left =>
      rw [hs] at he
      rw [after_of_ok he]
      exact ⟨nofun, hk.fields⟩
    | error error left =>
      rw [hs] at he
      rw [after_of_error he]
      exact hk

end Instance

/-- With keys that no row has an instance is as welcome as before. -/
theorem Factory.Welcomes.of_keyed {factory : Factory} {db db' : Database} {next : Nat}
    {item item' : Instance} (h : factory.Welcomes db next item.attributes)
    (hk : item.Keyed item') (hu : db'.unique = db.unique) (hq : db'.required = db.required)
    (hr : db'.all factory.model = db.all factory.model)
    (ha : ∀ field ∈ Database.fieldsOf factory.model db.unique,
      ∀ row ∈ db.all factory.model, ¬SortedMap.ShareKey field row.attributes item'.attributes) :
    factory.Welcomes db' next item'.attributes := by
  have hn : factory.Numbers db next item'.attributes := by
    intro field hf
    rcases hk.fields field with he | hkey
    · rw [he]
      exact h.numbered field hf
    · exact Or.inr hkey
  refine ⟨hn.of_unique hu, ?_, ?_⟩
  · rw [hq]
    intro field hf
    rcases hk.fields field with he | ⟨id, hid⟩
    · rw [he]
      exact h.filled field hf
    · exact ⟨_, hid, rfl⟩
  · rw [hu, hr]
    intro field hf row hrow hs
    rcases hs.of_keyed (hk.fields field) with hkey | hold
    · exact ha field hf row hrow hkey
    · exact h.apart field hf row hrow hold

namespace Block

variable {σ : Type}

/-- Of a factory's roster and counter everything is left but for keys that links have written. -/
structure Grazed (name : String) (block left : Block σ) : Prop where
  next : left.workshop.counters.current name = block.workshop.counters.current name
  indices : (left.bench name).roster.indices = (block.bench name).roster.indices
  instances : ∀ position item', left.instance? name position = some item' →
    ∃ item, block.instance? name position = some item ∧ item.Keyed item'

namespace Grazed

variable {name : String} {block middle left : Block σ}

theorem of_rosters (hn : left.workshop.counters.current name =
    block.workshop.counters.current name)
    (hr : left.rosters.get? name = block.rosters.get? name) : Grazed name block left := by
  refine ⟨hn, ?_, fun position item hi => ⟨item, ?_, Instance.Keyed.refl item⟩⟩
  · unfold Block.bench
    rw [hr]
  · unfold instance? at hi ⊢
    rwa [← hr]

theorem refl (name : String) (block : Block σ) : Grazed name block block := of_rosters rfl rfl

theorem trans (h : Grazed name block middle) (h' : Grazed name middle left) :
    Grazed name block left := by
  refine ⟨h'.next.trans h.next, h'.indices.trans h.indices, fun position item' hi' => ?_⟩
  obtain ⟨item, hi, hk⟩ := h'.instances position item' hi'
  obtain ⟨old, ho, hk'⟩ := h.instances position item hi
  exact ⟨old, ho, hk'.trans hk⟩

/-- Without instances there were none before. -/
theorem instances_eq_nil (h : Grazed name block left)
    (hn : (left.bench name).roster.instances = []) :
    (block.bench name).roster.instances = [] := by
  have hi := h.indices
  unfold Roster.indices at hi
  rw [hn] at hi
  exact List.map_eq_nil_iff.mp hi.symm

end Grazed

variable [RecordStore σ] {block left : Block σ}

theorem LinkStep.grazed (h : LinkStep block left) (name : String) : Grazed name block left := by
  have hindices := h.indices name
  cases h with
  | @key name' roster position item field id hr hi =>
    by_cases hn : name = name'
    · refine ⟨rfl, hindices, fun p item' hp => ?_⟩
      subst hn
      unfold instance? withInstance at hp
      rw [SortedMap.get?_insert_self, Option.bind_some, Roster.instance?_setInstance hi] at hp
      unfold instance?
      rw [hr, Option.bind_some]
      split at hp
      · rename_i he
        cases hp
        exact ⟨item, he ▸ hi, Instance.keyed_revise item field id block.store⟩
      · exact ⟨item', hp, Instance.Keyed.refl item'⟩
    · exact Grazed.of_rosters rfl (SortedMap.get?_insert_of_ne _ _ hn)
  | join => exact Grazed.of_rosters rfl rfl

theorem grazed_link (link : Link) (name : String) (block : Block σ) :
    Grazed name block (after (Block.link link) block) := by
  apply Moves.keeps (P := Grazed name block) _ (Grazed.refl name block)
  apply (moves_link link).mono
  intro middle left hstep hg
  exact hg.trans (hstep.grazed name)

end Block

/-! ## Blocks in which only one factory writes to its model -/

namespace Block

variable {factory : Factory} {block left : Block Database}

/-- The attributes of the rows of the factory's model and of its instances that are not saved. -/
def holdings (factory : Factory) (block : Block Database) : List AttributeMap :=
  (block.store.all factory.model).map (·.attributes) ++
    ((block.bench factory.name).roster.instances.filter (!·.isPersisted)).map (·.attributes)

/-- Of the rows of the factory's model and its instances that are not saved no two have the same
key in a unique field. -/
def KeysApart (factory : Factory) (block : Block Database) : Prop :=
  (block.holdings factory).Pairwise fun attributes attributes' =>
    ∀ field ∈ Database.fieldsOf factory.model block.store.unique,
      ¬SortedMap.ShareKey field attributes attributes'

instance (factory : Factory) (block : Block Database) : Decidable (block.KeysApart factory) :=
  inferInstanceAs (Decidable (List.Pairwise _ _))

theorem mem_unsaved_iff {item : Instance} :
    item ∈ (block.bench factory.name).roster.instances.filter (!·.isPersisted) ↔
      item.record = none ∧
        ∃ position, (block.bench factory.name).roster.instance? position = some item := by
  rw [List.mem_filter, List.mem_iff_getElem?, Instance.not_isPersisted_iff]
  exact and_comm

theorem KeysApart.rows (h : block.KeysApart factory) {row : Record}
    (hrow : row ∈ block.store.all factory.model) {position : Nat} {item : Instance}
    (hi : (block.bench factory.name).roster.instance? position = some item)
    (hr : item.record = none) {field : String}
    (hf : field ∈ Database.fieldsOf factory.model block.store.unique) :
    ¬SortedMap.ShareKey field row.attributes item.attributes :=
  (List.pairwise_append.mp h).2.2 _ (List.mem_map_of_mem hrow) _
    (List.mem_map_of_mem (mem_unsaved_iff.mpr ⟨hr, position, hi⟩)) field hf

theorem KeysApart.instances (h : block.KeysApart factory) {p q : Nat} {item item' : Instance}
    (hpq : p ≠ q) (hp : (block.bench factory.name).roster.instance? p = some item)
    (hq : (block.bench factory.name).roster.instance? q = some item') (hr : item.record = none)
    (hr' : item'.record = none) {field : String}
    (hf : field ∈ Database.fieldsOf factory.model block.store.unique) :
    ¬SortedMap.ShareKey field item.attributes item'.attributes := by
  obtain ⟨hi, rfl⟩ := List.getElem?_eq_some_iff.mp hp
  obtain ⟨hj, rfl⟩ := List.getElem?_eq_some_iff.mp hq
  have hunsaved := (List.pairwise_append.mp h).2.1
  rw [List.pairwise_map, List.pairwise_filter, List.pairwise_iff_getElem] at hunsaved
  have hn := Instance.not_isPersisted_iff.mpr hr
  have hn' := Instance.not_isPersisted_iff.mpr hr'
  rcases Nat.lt_or_gt_of_ne hpq with hlt | hlt
  · exact hunsaved p q hi hj hlt hn hn' field hf
  · exact fun hk => hunsaved q p hj hi hlt hn' hn field hf hk.symm

/-- The declaration is one of the factory and gives no overrides, or it is none of the factory and
leaves the rows of the model. -/
def DeclaresAlone (factory : Factory) (name : String) (arguments : Arguments)
    (block : Block Database) : Prop :=
  block.workshop.StandsFor name factory ∧ arguments.maps = [] ∨
    (∀ form, block.workshop.resolveName name ≠ .ok (factory.name, form)) ∧
      (after (declare name arguments) block).store.all factory.model =
        block.store.all factory.model

/-- The link writes nothing to the model of the factory, and does not give the same key to two of
the rows and the instances that are not saved. -/
def LinksAside (factory : Factory) (link : Link) (block : Block Database) : Prop :=
  (after (Block.link link) block).store.all factory.model = block.store.all factory.model ∧
    (after (Block.link link) block).KeysApart factory

/-- Of what the statement does only declarations of the factory write to its model. -/
def WritesAlone (factory : Factory) (block : Block Database) : Statement → Prop
  | .declare name arguments => block.DeclaresAlone factory name arguments
  | .link link => block.LinksAside factory link
  | .linkNames source target =>
    block.DeclaresAlone factory source .none ∧
      ∀ ref middle, declare source .none block = .ok ref middle →
        middle.DeclaresAlone factory target .none ∧
          ∀ ref' left, declare target .none middle = .ok ref' left →
            left.LinksAside factory { source := ref, target := ref' }
  | .register _ | .registerSchema _ | .clearCatalog => True

/-- Of the rows of the factory's model and its instances that are not saved no two have the same
value in a unique field. -/
def IsSequenced (factory : Factory) (block : Block Database) : Prop :=
  (block.bench factory.name).Sequenced factory

theorem start_sequenced {workshop : Workshop} {store : Database} (hs : factory.Suits store)
    (he : store.all factory.model = []) : (start workshop store).IsSequenced factory :=
  Bench.sequenced_of_empty hs he rfl

theorem IsSequenced.keysApart (h : block.IsSequenced factory) : block.KeysApart factory := by
  refine List.pairwise_append.mpr ⟨?_, ?_, ?_⟩
  · rw [List.pairwise_map, List.pairwise_iff_getElem]
    intro i j hi hj hij field hf hk
    exact h.rows.apart field hf i j _ _ (Nat.ne_of_lt hij) (List.getElem?_eq_getElem hi)
      (List.getElem?_eq_getElem hj) hk.share
  · rw [List.pairwise_map, List.pairwise_filter, List.pairwise_iff_getElem]
    intro i j hi hj hij hn hn' field hf hk
    exact h.apart i j _ _ (Nat.ne_of_lt hij) (List.getElem?_eq_getElem hi)
      (List.getElem?_eq_getElem hj) (Instance.not_isPersisted_iff.mp hn)
      (Instance.not_isPersisted_iff.mp hn') field hf hk.share
  · intro attributes ha attributes' ha' field hf hk
    obtain ⟨row, hrow, rfl⟩ := List.mem_map.mp ha
    obtain ⟨item, hi, rfl⟩ := List.mem_map.mp ha'
    obtain ⟨hr, position, hp⟩ := mem_unsaved_iff.mp hi
    exact (h.waiting position item hp hr).apart field hf row hrow hk.share

/-- Keys keep the rows and the instances apart, if they are apart themselves. -/
theorem IsSequenced.of_grazed (h : block.IsSequenced factory)
    (hg : Grazed factory.name block left) (ha : block.store.Alike left.store)
    (hrows : left.store.all factory.model = block.store.all factory.model)
    (hk : left.KeysApart factory) : left.IsSequenced factory := by
  have hold : ∀ position item', (left.bench factory.name).roster.instance? position = some item' →
      item'.record = none → ∃ item,
        (block.bench factory.name).roster.instance? position = some item ∧
          item.record = none ∧ item.Keyed item' := by
    intro position item' hi hr
    rw [instance?_bench] at hi
    obtain ⟨item, ho, hkeyed⟩ := hg.instances position item' hi
    rw [← instance?_bench] at ho
    exact ⟨item, ho, hkeyed.record hr, hkeyed⟩
  have hnext : (left.bench factory.name).counters.current factory.name =
      (block.bench factory.name).counters.current factory.name := hg.next
  have hunique : ∀ {field}, field ∈ Database.fieldsOf factory.model block.store.unique →
      field ∈ Database.fieldsOf factory.model left.store.unique := fun hf => ha.unique ▸ hf
  refine ⟨h.suits.of_constraints ha.unique ha.required, fun hnil => ?_, ?_, fun row hrow => ?_,
    fun position item' hi hr => ?_, fun p q item item' hpq hp hq hr hr' field hf hs => ?_⟩
  · exact hrows.trans (h.origin (hg.instances_eq_nil hnil))
  · show Table.Constrained (Database.fieldsOf factory.model left.store.unique)
      (Database.fieldsOf factory.model left.store.required) (left.store.all factory.model)
    rw [ha.unique, ha.required, hrows]
    exact h.rows
  · rw [hnext]
    exact (h.numbered row (hrows ▸ hrow)).of_unique ha.unique
  · obtain ⟨old, ho, hold, hkeyed⟩ := hold position item' hi hr
    rw [hnext]
    exact (h.waiting position old ho hold).of_keyed hkeyed ha.unique ha.required hrows
      fun field hf row hrow => hk.rows (hrows.symm ▸ hrow) hi hr (hunique hf)
  · obtain ⟨old, ho, hrecord, hkeyed⟩ := hold p item hp hr
    obtain ⟨old', ho', hrecord', hkeyed'⟩ := hold q item' hq hr'
    change field ∈ Database.fieldsOf factory.model left.store.unique at hf
    rcases hkeyed.share hkeyed' hs with hkey | hshare
    · exact hk.instances hpq hp hq hr hr' hf hkey
    · exact h.apart p q old old' hpq ho ho' hrecord hrecord' field (ha.unique ▸ hf) hshare

/-- Declarations of the factory are not refused by the database. -/
theorem declare_unrefused {name : String} {arguments : Arguments} (hh : factory.hooks = {})
    (hn : block.workshop.StandsFor name factory) (hm : arguments.maps = [])
    (h : block.IsSequenced factory) :
    Ends (declare name arguments block) (fun _ left => left.IsSequenced factory)
      fun error left =>
        (left.IsSequenced factory ∨ (left.bench factory.name).Wrapped factory.name) ∧
          ∀ refusal, error ≠ .store refusal := by
  obtain ⟨hf, form, hr⟩ := hn
  exact declare_ends_of_bench hr hf arguments
    (Bench.declare_unrefused hh name form hm (block.bench factory.name) h)

theorem DeclaresAlone.sequenced {name : String} {arguments : Arguments}
    (hd : block.DeclaresAlone factory name arguments) (hh : factory.hooks = {})
    (h : block.IsSequenced factory) :
    Ends (declare name arguments block) (fun _ left => left.IsSequenced factory)
      fun _ left => left.IsSequenced factory ∨ (left.bench factory.name).Wrapped factory.name := by
  rcases hd with ⟨hn, hm⟩ | ⟨hn, hrows⟩
  · exact (declare_unrefused hh hn hm h).mono (fun _ _ hl => hl) fun _ _ hl => hl.1
  · obtain ⟨hnext, hroster⟩ := declare_of_ne arguments hn
    have ha := alike_perform (.declare name arguments) block
    rw [after_perform_declare] at ha
    have hl : (after (declare name arguments) block).IsSequenced factory := by
      apply h.of_grazed (Grazed.of_rosters hnext hroster) ha hrows
      have hunique : (after (declare name arguments) block).store.unique = block.store.unique :=
        ha.unique
      have hk := h.keysApart
      unfold KeysApart holdings Block.bench at hk ⊢
      rw [hrows, hroster, hunique]
      exact hk
    exact (Ends.of_after (P := IsSequenced factory) hl).mono (fun _ _ hl => hl) fun _ _ hl =>
      Or.inl hl

theorem LinksAside.sequenced {link : Link} (hl : block.LinksAside factory link)
    (h : block.IsSequenced factory) : (after (Block.link link) block).IsSequenced factory := by
  have ha := alike_perform (.link link) block
  rw [after_perform_link] at ha
  exact h.of_grazed (grazed_link link factory.name block) ha hl.1 hl.2

theorem WritesAlone.sequenced {statement : Statement} (hw : block.WritesAlone factory statement)
    (hh : factory.hooks = {}) (h : block.IsSequenced factory) :
    (after (perform statement) block).IsSequenced factory ∨
      ((after (perform statement) block).bench factory.name).Wrapped factory.name := by
  have hends : ∀ {name arguments} {block : Block Database}, block.DeclaresAlone factory name
      arguments → block.IsSequenced factory →
        (after (declare name arguments) block).IsSequenced factory ∨
          ((after (declare name arguments) block).bench factory.name).Wrapped factory.name :=
    fun hd h => Ends.after
      (P := fun left => left.IsSequenced factory ∨ (left.bench factory.name).Wrapped factory.name)
      ((hd.sequenced hh h).mono (fun _ _ hl => Or.inl hl) fun _ _ hl => hl)
  cases statement with
  | declare name arguments =>
    rw [after_perform_declare]
    exact hends hw h
  | link link =>
    rw [after_perform_link]
    exact Or.inl (LinksAside.sequenced hw h)
  | linkNames source target =>
    obtain ⟨hsource, hrest⟩ := hw
    rw [after_perform_linkNames]
    unfold linkNames
    -- Each part of the statement starts from what the one before it has left.
    cases hd : declare source .none block with
    | error error middle =>
      have hs := hends hsource h
      rw [after_of_error hd] at hs
      rwa [after_bind_of_error hd]
    | ok ref middle =>
      have hs := hsource.sequenced hh h
      rw [hd] at hs
      rw [after_bind_of_ok hd]
      obtain ⟨htarget, hlink⟩ := hrest ref middle hd
      cases hd' : declare target .none middle with
      | error error left =>
        have ht := hends htarget hs
        rw [after_of_error hd'] at ht
        rwa [after_bind_of_error hd']
      | ok ref' left =>
        have ht := htarget.sequenced hh hs
        rw [hd'] at ht
        rw [after_bind_of_ok hd']
        exact Or.inl ((hlink ref' left hd').sequenced ht)
  | register | registerSchema | clearCatalog => exact Or.inl h

/-- A unique field that the factory defines has a value in every row. -/
theorem IsSequenced.exists_value (h : block.IsSequenced factory) {field : String}
    (hf : field ∈ Database.fieldsOf factory.model block.store.unique)
    (hd : (factory.fields.get? field).isSome = true) {row : Record}
    (hrow : row ∈ block.store.all factory.model) :
    ∃ value, row.attributes.get? field = some value := by
  rcases h.numbered row hrow field hf with ⟨index, -, he⟩ | ⟨id, hid⟩
  · rw [he]
    exact h.suits.valueAt?_isSome hf hd index
  · exact ⟨_, hid⟩

/-- Different rows have different values. -/
theorem IsSequenced.apart (h : block.IsSequenced factory) {field : String}
    (hf : field ∈ Database.fieldsOf factory.model block.store.unique)
    (hd : (factory.fields.get? field).isSome = true) {i j : Nat} {row row' : Record} (hij : i ≠ j)
    (hi : (block.store.all factory.model)[i]? = some row)
    (hj : (block.store.all factory.model)[j]? = some row') :
    ∃ value value', row.attributes.get? field = some value ∧
      row'.attributes.get? field = some value' ∧ value.same value' = false := by
  obtain ⟨value, hv⟩ := h.exists_value hf hd (List.mem_of_getElem? hi)
  obtain ⟨value', hv'⟩ := h.exists_value hf hd (List.mem_of_getElem? hj)
  refine ⟨value, value', hv, hv', ?_⟩
  rw [← Bool.not_eq_true]
  exact fun hs => h.rows.apart field hf i j row row' hij hi hj ⟨value, value', hv, hv', hs⟩

/-- In a block in which only the declarations of a factory write to its model, and give no
overrides, the store refuses none of them, and any two rows of the model differ in every unique
field that the factory defines.  The factory has no hooks and suits the store, where there are no
rows of the model at first, its counter is nowhere back at zero when there are instances, and no
link gives the same key in a unique field to two of the rows and the instances that are not
saved. -/
theorem sequences_keep_apart (factory : Factory) (workshop : Workshop) (store : Database)
    (attempts : List Attempt) (hh : factory.hooks = {}) (hs : factory.Suits store)
    (he : store.all factory.model = [])
    (hn : ∀ before, before <+: attempts →
      ¬((after (performAll before) (start workshop store)).bench factory.name).Wrapped factory.name)
    (hw : ∀ before attempt rest block, attempts = before ++ attempt :: rest →
      performAll before (start workshop store) = .ok () block →
        block.WritesAlone factory attempt.statement) :
    let left := after (performAll attempts) (start workshop store)
    (∀ name arguments, left.workshop.StandsFor name factory → arguments.maps = [] →
      Ends (declare name arguments left) (fun _ _ => True)
        fun error _ => ∀ refusal, error ≠ .store refusal) ∧
    ∀ field ∈ Database.fieldsOf factory.model store.unique,
      (factory.fields.get? field).isSome = true → ∀ (i j : Nat) row row', i ≠ j →
        (left.store.all factory.model)[i]? = some row →
          (left.store.all factory.model)[j]? = some row' →
            ∃ value value', row.attributes.get? field = some value ∧
              row'.attributes.get? field = some value' ∧ value.same value' = false := by
  intro left
  have h : left.IsSequenced factory ∧ store.Alike left.store := by
    refine performAll_unless
      (P := fun block => block.IsSequenced factory ∧ store.Alike block.store)
      (Q := fun block => (block.bench factory.name).Wrapped factory.name) ?_ hn
      ⟨start_sequenced hs he, rfl, rfl⟩
    intro before attempt rest block hb hrun h
    exact ((hw before attempt rest block hb hrun).sequenced hh h.1).imp
      (fun hl => ⟨hl, h.2.trans (alike_perform attempt.statement block)⟩) id
  refine ⟨fun name arguments hn hm => ?_, fun field hf hd i j row row' hij hi hj => ?_⟩
  · exact (declare_unrefused hh hn hm h.1).mono (fun _ _ _ => trivial) fun _ _ hl => hl.2
  · exact h.1.apart (by rw [h.2.unique]; exact hf) hd hij hi hj

/-- Two users are built as hashes and linked to a team each, which puts different keys into a unique
field of theirs; then they are saved together with a third. -/
theorem sequences_keep_apart_of_linked :
    let user : Factory := ({ name := "user", model := "User" } : Factory).withField "email"
      (.template "u\x7bn\x7d@tut.by")
    let team : Factory := { name := "team", model := "Team" }
    let schema : Schema := ({ model := "User" } : Schema).add
      { name := "team", kind := .belongsTo, targetModel := "Team", foreignKey := "team_id" }
    let workshop : Workshop :=
      { catalog := (((∅ : Catalog).register user).register team).registerSchema schema }
    let store : Database :=
      { unique := [("User", "email"), ("User", "team_id")], required := [("User", "email")] }
    let link : Link :=
      { source := { factory := "user", form := .collectionHash, positions := [0, 1] }
        target := { factory := "team", form := .collection, positions := [0, 1] } }
    let attempts : List Attempt :=
      [⟨.declare "users_" (.count 2), false⟩, ⟨.declare "teams" (.count 2), false⟩,
        ⟨.link link, false⟩, ⟨.declare "users" (.count 3), false⟩]
    let left := after (performAll attempts) (start workshop store)
    (left.store.all "User").map (·.int? "team_id") = [some 1, some 2, none] ∧
      Ends (declare "users_" .none left) (fun _ _ => True)
        (fun error _ => ∀ refusal, error ≠ .store refusal) ∧
      ∀ (i j : Nat) row row', i ≠ j → (left.store.all "User")[i]? = some row →
        (left.store.all "User")[j]? = some row' →
          ∃ value value', row.attributes.get? "email" = some value ∧
            row'.attributes.get? "email" = some value' ∧ value.same value' = false := by
  intro user team schema workshop store link attempts left
  have huser : workshop.catalog.factory? "user" = some user := by
    show (((∅ : SortedMap Factory).insert "user" user).insert "team" team).get? "user" = some user
    rw [SortedMap.get?_insert_of_ne _ _ (by decide), SortedMap.get?_insert_self]
  have hnames : (workshop.resolveName "users_").toOption = some ("user", .collectionHash) ∧
      (workshop.resolveName "users").toOption = some ("user", .collection) := by decide +kernel
  have hleaves : ∀ attempt ∈ attempts, attempt.statement.LeavesCatalog := by decide +kernel
  have hstands : ∀ before form name, before ⊆ attempts →
      (workshop.resolveName name).toOption = some ("user", form) →
        (after (performAll before) (start workshop store)).workshop.StandsFor name user := by
    intro before form name hb hn
    exact performAll_standsFor ⟨huser, form, eq_ok_of_toOption hn⟩ fun attempt ha =>
      hleaves attempt (hb ha)
  have hw : ∀ before attempt rest block, attempts = before ++ attempt :: rest →
      performAll before (start workshop store) = .ok () block →
        block.WritesAlone user attempt.statement := by
    intro before attempt rest block hb hrun
    have htake : attempts.take before.length = before := by rw [hb, List.take_left']; rfl
    have hget : attempts[before.length]? = some attempt := by
      rw [hb, List.getElem?_append_right (Nat.le_refl _), Nat.sub_self]
      rfl
    rw [← after_of_ok hrun, ← htake]
    generalize before.length = done at hget
    -- The attempt is the first, the second, the third or the last one.
    rcases done with _ | _ | _ | _ | done
    · obtain rfl := Option.some.inj hget
      exact Or.inl ⟨hstands _ _ _ (List.take_subset _ _) hnames.1, rfl⟩
    · obtain rfl := Option.some.inj hget
      refine Or.inr ⟨fun form hr => ?_, by decide +kernel⟩
      have hteam : ((after (performAll (attempts.take 1)) (start workshop
          store)).workshop.resolveName "teams").toOption.map (·.1) = some "team" := by
        decide +kernel
      rw [hr] at hteam
      exact absurd (Option.some.inj hteam) (by decide : user.name ≠ "team")
    · obtain rfl := Option.some.inj hget
      exact ⟨by decide +kernel, by decide +kernel⟩
    · obtain rfl := Option.some.inj hget
      exact Or.inl ⟨hstands _ _ _ (List.take_subset _ _) hnames.2, rfl⟩
    · cases hget
  have hs : user.Suits store := by decide +kernel
  have hn : ∀ before, before <+: attempts →
      ¬((after (performAll before) (start workshop store)).bench "user").Wrapped "user" := by
    have hall : ∀ done ≤ 4, ¬((after (performAll (attempts.take done))
        (start workshop store)).bench "user").Wrapped "user" := by decide +kernel
    intro before hb
    rw [List.prefix_iff_eq_take.mp hb]
    exact hall _ hb.length_le
  have hall := sequences_keep_apart user workshop store attempts rfl hs rfl hn hw
  refine ⟨by decide +kernel, ?_, ?_⟩
  · exact hall.1 "users_" .none (hstands attempts _ _ (List.Subset.refl _) hnames.1) rfl
  · intro i j row row' hij hi hj
    exact hall.2 "email" (by decide) rfl i j row row' hij hi hj

/-- The link gives the same key to both profiles, which nobody has saved, and the key is unique: of
the declarations that alone write profiles the last is refused. -/
theorem linked_key_taken :
    let user : Factory := ({ name := "user", model := "User" } : Factory).withField "email"
      (.template "user\x7bn\x7d@tut.by")
    let profile : Factory := ({ name := "profile", model := "Profile" } : Factory).withField "nick"
      (.template "n\x7bn\x7d")
    let schema : Schema := ({ model := "User" } : Schema).add
      { name := "profiles", kind := .hasMany, targetModel := "Profile", foreignKey := "user_id" }
    let workshop : Workshop :=
      { catalog := (((∅ : Catalog).register user).register profile).registerSchema schema }
    let store : Database := { unique := [("Profile", "user_id"), ("Profile", "nick")] }
    let link : Link :=
      { source := { factory := "user", form := .singleton, positions := [0] }
        target := { factory := "profile", form := .collectionHash, positions := [0, 1] } }
    let before : List Attempt :=
      [⟨.declare "user" .none, false⟩, ⟨.declare "profiles_" (.count 2), false⟩,
        ⟨.link link, false⟩]
    profile.hooks = {} ∧ profile.Suits store ∧ store.all "Profile" = [] ∧
      (after (performAll before) (start workshop store)).store.all "Profile" = [] ∧
      Ends (performAll (before ++ [⟨.declare "profiles" (.count 2), false⟩]) (start workshop store))
        (fun _ _ => False) fun error _ => error = .store (.taken "Profile" "user_id") := by
  intro user profile schema workshop store link before
  exact ⟨rfl, by decide +kernel, rfl, by decide +kernel, by decide +kernel⟩

end Block

end Fixtures
