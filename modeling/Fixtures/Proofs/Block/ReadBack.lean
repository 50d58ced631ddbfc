import Fixtures.Proofs.Block.Agreement
import Fixtures.Proofs.Block.Keys
import Fixtures.Proofs.History.Run
import Fixtures.Proofs.Link.Choice
import Fixtures.Proofs.Store.Following

/-!
# Reading back what a link wrote

A link writes keys into instances and joining records into the store.  Following its association
from the records of the owners, which looks at nothing but the store, leads to the records of the
instances that were linked (`Block.link_readsBack`).
-/

namespace Fixtures

open DatabaseBacked

/-! ## Models of records -/

/-- A record that comes of an event has the model of the one before, or else of a factory. -/
theorem Effect.model {P : Factory → Prop} {old new : Option Instance × Database} {event : Event}
    {record : Record} (h : Effect P old event new) (hn : old.2.Numbered)
    (hk : ∀ factory, P factory → factory.KeepsKeys)
    (hr : new.1.bind (·.record) = some record) :
    (∃ record', old.1.bind (·.record) = some record' ∧ record.model = record'.model) ∨
      ∃ factory, P factory ∧ record.model = factory.model := by
  cases h with
  | built => cases hr
  | @changed item cause changes db hi =>
    rw [Option.bind_some, item.changedBy_record] at hr
    exact Or.inl ⟨record, hr, rfl⟩
  | accepted cause hi hd =>
    cases hr
    exact Or.inl ⟨_, hi, (hn.replaced_key hd).1⟩
  | @refused item _ cause changes db hi =>
    rw [Option.bind_some, item.changedBy_record] at hr
    exact Or.inl ⟨record, hr, rfl⟩
  | @saved factory item created db db' hp hi hd hv =>
    cases hr
    obtain ⟨-, hc, -⟩ := Database.insert_eq_ok_iff.mp hd
    refine Or.inr ⟨factory, hp, ?_⟩
    rw [((hk factory hp).afterCreating created).1, hc]
  | @rewritten factory item created found db db' db'' hp hi hd hd' =>
    cases hr
    obtain ⟨-, hc, -⟩ := Database.insert_eq_ok_iff.mp hd
    refine Or.inr ⟨factory, hp, ?_⟩
    rw [((hn.insert hd).replaced_key hd').1, ((hk factory hp).afterCreating created).1, hc]
  | lost _ hi =>
    rw [Option.bind_some, hi] at hr
    cases hr

/-- What instances at a place are made by, in a block that leaves this catalog. -/
def ModelledBy (catalog : Catalog) (place : String × Nat) (factory : Factory) : Prop :=
  factory.KeepsKeys ∧ catalog.factory? place.1 = some factory

/-- Every record is of the model of the factory that it is kept under. -/
def Scene.Modelled (catalog : Catalog) (scene : Scene (String × Nat)) : Prop :=
  ∀ place record, (scene.instance? place).bind (·.record) = some record →
    ∃ factory, catalog.factory? place.1 = some factory ∧ record.model = factory.model

/-- The same among many instances, at any place. -/
theorem Scene.Step.model {P : String × Nat → Factory → Prop} {scene scene' : Scene (String × Nat)}
    {incident : Incident (String × Nat)} {place : String × Nat} {record : Record}
    (h : Step P scene incident scene') (hn : scene.database.Numbered)
    (hr : (scene'.instance? place).bind (·.record) = some record)
    (hk : ∀ factory, P place factory → factory.KeepsKeys) :
    (∃ record', (scene.instance? place).bind (·.record) = some record' ∧
      record.model = record'.model) ∨
        ∃ factory, P place factory ∧ record.model = factory.model := by
  cases h with
  | joined hd => exact Or.inl ⟨record, hr, rfl⟩
  | @of place' event part he =>
    rw [instance?_put] at hr
    by_cases hp : place = place'
    · subst hp
      rw [if_pos rfl] at hr
      exact he.model hn hk hr
    · rw [if_neg hp] at hr
      exact Or.inl ⟨record, hr, rfl⟩

theorem Scene.Step.modelled {catalog : Catalog} {scene scene' : Scene (String × Nat)}
    {incident : Incident (String × Nat)} (h : Step (ModelledBy catalog) scene incident scene')
    (hn : scene.database.Numbered) (hm : scene.Modelled catalog) : scene'.Modelled catalog := by
  intro place record hr
  -- Either the record had a model before, or it has that of its factory now.
  rcases h.model hn hr (fun _ hf => hf.1) with ⟨old, ho, hmodel⟩ | ⟨factory, hf, hmodel⟩
  · rw [hmodel]
    exact hm place old ho
  · exact ⟨factory, hf.2, hmodel⟩

/-- The statement does not change the catalog. -/
def Statement.LeavesCatalog : Statement → Prop
  | .declare _ _ | .link _ | .linkNames _ _ => True
  | .register _ | .registerSchema _ | .clearCatalog => False

instance : DecidablePred Statement.LeavesCatalog
  | .declare _ _ | .link _ | .linkNames _ _ => inferInstanceAs (Decidable True)
  | .register _ | .registerSchema _ | .clearCatalog => inferInstanceAs (Decidable False)

theorem Statement.LeavesCatalog.keepsKeys {statement : Statement} (h : statement.LeavesCatalog) :
    statement.KeepsKeys := by
  cases statement with
  | declare | link | linkNames | registerSchema | clearCatalog => trivial
  | register => exact h.elim

namespace Block

theorem catalogAfter_of_leaves {statement : Statement} (h : statement.LeavesCatalog)
    (catalog : Catalog) : catalogAfter statement catalog = catalog := by
  cases statement with
  | declare | link | linkNames => rfl
  | register | registerSchema | clearCatalog => exact h.elim

variable {σ : Type} [RecordStore σ]

theorem performAll_catalog {workshop : Workshop} {store : σ} {attempts : List Attempt}
    (hs : ∀ attempt ∈ attempts, attempt.statement.LeavesCatalog) :
    (after (performAll attempts) (start workshop store)).workshop.catalog = workshop.catalog := by
  apply performAll_steps (P := fun block : Block σ => block.workshop.catalog = workshop.catalog)
  · exact fun _ _ hstep h => hstep.catalog.trans h
  · intro attempt ha block h
    rw [catalogAfter_of_leaves (hs attempt ha)]
    exact h
  · exact start_catalog workshop store

variable [DatabaseBacked σ]

theorem performAll_modelled {workshop : Workshop} {store : σ} {attempts : List Attempt}
    (hk : workshop.catalog.KeepsKeys) (hr : (database store).Reachable)
    (hs : ∀ attempt ∈ attempts, attempt.statement.LeavesCatalog) :
    (after (performAll attempts) (start workshop store)).view.Modelled workshop.catalog := by
  have ht : Trail (Scene.Step (ModelledBy workshop.catalog)) (start workshop store).view _ _ :=
    seen_trail (Q := fun catalog => catalog = workshop.catalog)
      (fun catalog hc name factory hf _ => by
        rw [hc] at hf
        exact ⟨hk name factory hf, hf⟩)
      (fun attempt ha catalog hc => (catalogAfter_of_leaves (hs attempt ha) catalog).trans hc)
      (start_catalog workshop store)
  have hm := ht.invariant (P := fun scene =>
    scene.database.Numbered ∧ scene.Modelled workshop.catalog)
    ⟨hr.numbered, fun _ _ h => nomatch h⟩
    fun _ _ _ h hstep => ⟨hstep.numbered h.1, hstep.modelled h.1 h.2⟩
  exact hm.2

theorem performAll_sound {workshop : Workshop} {store : σ} {attempts : List Attempt}
    (hk : workshop.catalog.KeepsKeys) (hr : (database store).Reachable)
    (hs : ∀ attempt ∈ attempts, attempt.statement.LeavesCatalog) :
    (after (performAll attempts) (start workshop store)).Sound ∧
      (after (performAll attempts) (start workshop store)).workshop.catalog = workshop.catalog :=
  ⟨sound_performAll hk hr fun attempt ha => (hs attempt ha).keepsKeys, performAll_catalog hs⟩

end Block

/-! ## What can be read -/

/-- The keys of an association can be told apart from each other and from the primary key. -/
def Association.KeysApart (association : Association) : Prop :=
  match association.kind with
  | .belongsTo | .hasOne | .hasMany => association.foreignKey ≠ "id"
  | .manyToMany _ key key' => key ≠ key' ∧ key ≠ "id" ∧ key' ≠ "id"

namespace Link

/-- All instances that the link refers to are saved. -/
def IsSaved {σ : Type} (link : Link) (block : Block σ) : Prop :=
  (∀ position ∈ link.source.positions,
    (block.record? link.source.factory position).isSome = true) ∧
    ∀ position ∈ link.target.positions,
      (block.record? link.target.factory position).isSome = true

/-- No earlier pair has the same instance on this side. -/
def IsFirst (link : Link) (side : Side) (pair : Nat × Nat) : Prop :=
  link.pairs.find? (fun p => side.of p == side.of pair) = some pair

theorem mem_pairs {link : Link} {pair : Nat × Nat} (h : pair ∈ link.pairs) :
    pair.1 ∈ link.source.positions ∧ pair.2 ∈ link.target.positions := by
  unfold pairs at h
  split at h
  · exact List.of_mem_zip h
  · rw [List.mem_flatMap] at h
    obtain ⟨s, hs, h⟩ := h
    obtain ⟨t, ht, rfl⟩ := List.mem_map.mp h
    exact ⟨hs, ht⟩

end Link

namespace Block

variable {σ : Type}

theorem of_ends (link : Link) (side : Side) (pair : Nat × Nat) :
    side.of (ends link pair) =
      (side.of (link.source.factory, link.target.factory), side.of pair) := by
  cases side <;> rfl

/-- Of the pairs that are kept, no two have the same instance on the side of the holder. -/
theorem nodup_ends (link : Link) (holder : Side) (pairs : List (Nat × Nat)) :
    ((firstPerHolder holder.of [] pairs).map fun pair => holder.of (ends link pair)).Nodup := by
  have hfirst := firstPerHolder_nodup holder.of [] pairs
  rw [List.nodup_iff_pairwise_ne, List.pairwise_map] at hfirst ⊢
  apply hfirst.imp
  intro pair pair' hne he
  rw [of_ends, of_ends] at he
  exact hne (congrArg Prod.snd he)

theorem isSome_of_mem_pairs {link : Link} {block : Block σ} (h : link.IsSaved block)
    {pair : Nat × Nat} (hp : pair ∈ link.pairs) (side : Side) :
    (block.record? (side.of (ends link pair)).1 (side.of (ends link pair)).2).isSome = true := by
  obtain ⟨hs, ht⟩ := Link.mem_pairs hp
  cases side with
  | source => exact h.1 pair.1 hs
  | target => exact h.2 pair.2 ht

variable [RecordStore σ]

/-- What a link that succeeds has looked up, and that its pairs are written. -/
theorem link_eq_ok {link : Link} {block left : Block σ} {written : Nat}
    (h : Block.link link block = .ok written left) :
    ∃ source target resolution,
      block.workshop.catalog.factory? link.source.factory = some source ∧
      block.workshop.catalog.factory? link.target.factory = some target ∧
      block.workshop.catalog.resolveLink source target link.via = .ok resolution ∧
      linkPairs link resolution (resolution.written link.pairs) block = .ok () left := by
  rw [link_eq] at h
  cases hs : block.workshop.catalog.factory link.source.factory with
  | error error =>
    rw [hs] at h
    cases h
  | ok source =>
    rw [hs] at h
    dsimp only at h
    cases ht : block.workshop.catalog.factory link.target.factory with
    | error error =>
      rw [ht] at h
      cases h
    | ok target =>
      rw [ht] at h
      dsimp only at h
      cases hr : block.workshop.catalog.resolveLink source target link.via with
      | error error =>
        rw [hr] at h
        cases h
      | ok resolution =>
        rw [hr] at h
        dsimp only at h
        cases hw : linkPairs link resolution (resolution.written link.pairs) block with
        | error error store =>
          rw [hw] at h
          cases h
        | ok answer store =>
          rw [hw] at h
          cases h
          exact ⟨source, target, resolution, Catalog.factory_eq_ok_iff.mp hs,
            Catalog.factory_eq_ok_iff.mp ht, hr, hw⟩

/-- The row is that of the record of an instance. -/
def IsRowOf (left : Block σ) (place : String × Nat) (row : Record) : Prop :=
  ∃ record, left.record? place.1 place.2 = some record ∧ record.same row = true

/-- An association leads from the record of an instance to records as `found` says. -/
def Leads (catalog : Catalog) (left : Block σ) (place : String × Nat) (name : String)
    (found : Record → List Record → Prop) : Prop :=
  ∃ record, left.record? place.1 place.2 = some record ∧
    Ends (catalog.related record name left.store) (fun records _ => found record records)
      fun _ _ => False

/-- The association of a link leads from the owners to the instances that were linked to them. -/
def ReadsBack (catalog : Catalog) (link : Link) (resolution : Resolution) (left : Block σ) :
    Prop :=
  let association := resolution.association
  let owner pair := resolution.owner.of (ends link pair)
  let other pair := resolution.owner.other.of (ends link pair)
  match association.kind with
  -- The owner takes one key, and that is the first one.
  | .belongsTo => ∀ pair, link.IsFirst resolution.owner pair →
    Leads catalog left (owner pair) association.name fun _ records =>
      ∃ row, records = [row] ∧ left.IsRowOf (other pair) row
  -- There may be other records with the owner's key, of which one is found.
  | .hasOne => ∀ pair, link.IsFirst resolution.owner.other pair →
    Leads catalog left (owner pair) association.name fun record records =>
      ∃ row, records = [row] ∧ row.model = association.targetModel ∧
        row.field? association.foreignKey = some (.int record.id)
  | .hasMany => ∀ pair, link.IsFirst resolution.owner.other pair →
    Leads catalog left (owner pair) association.name fun _ records =>
      ∃ row ∈ records, left.IsRowOf (other pair) row
  | .manyToMany .. => ∀ pair ∈ link.pairs,
    Leads catalog left (owner pair) association.name fun _ records =>
      ∃ row ∈ records, left.IsRowOf (other pair) row

/-! ## Reading after a link -/

section

variable [DatabaseBacked σ] {catalog : Catalog} {source target : Factory} {link : Link}
  {resolution : Resolution} {left : Block σ} {pair : Nat × Nat} {ownerRecord otherRecord : Record}

/-- The block after a link that went through `resolution`. -/
structure Linked (catalog : Catalog) (source target : Factory) (link : Link)
    (resolution : Resolution) (left : Block σ) : Prop where
  sound : left.Sound
  models : ∀ (side : Side) pair record,
    left.record? (side.of (ends link pair)).1 (side.of (ends link pair)).2 = some record →
      record.model = (side.of (source, target)).model
  declared : ∃ schema, catalog.schema? (resolution.owner.of (source, target)).model = some schema ∧
    schema.association? resolution.association.name = some resolution.association
  leads : resolution.association.targetModel = (resolution.owner.other.of (source, target)).model

/-- The association can be followed from the record of an owner. -/
theorem Linked.follow (h : Linked catalog source target link resolution left)
    {found : Record → List Record → Prop}
    (ho : left.record? (resolution.owner.of (ends link pair)).1
      (resolution.owner.of (ends link pair)).2 = some ownerRecord)
    (hf : found ownerRecord
      (Catalog.follow ownerRecord resolution.association left.store).1) :
    Leads catalog left (resolution.owner.of (ends link pair)) resolution.association.name
      found := by
  obtain ⟨schema, hs, ha⟩ := h.declared
  rw [← h.models _ _ _ ho] at hs
  refine ⟨ownerRecord, ho, ?_⟩
  rw [Catalog.related_eq hs ha]
  exact hf

/-- The record on the other side is found in the table of the association's model. -/
theorem Linked.stored (h : Linked catalog source target link resolution left)
    (ht : left.record? (resolution.owner.other.of (ends link pair)).1
      (resolution.owner.other.of (ends link pair)).2 = some otherRecord) :
    ∃ row, (database left.store).find? resolution.association.targetModel otherRecord.id =
      some row ∧ otherRecord.same row = true := by
  obtain ⟨row, hrow, hsame⟩ := h.sound.agrees.stored _ _ _ ht
  rw [h.models _ _ _ ht, ← h.leads] at hrow
  exact ⟨row, hrow, hsame⟩

theorem Linked.belongsTo (h : Linked catalog source target link resolution left)
    (hk : resolution.association.kind = .belongsTo)
    (hid : resolution.association.foreignKey ≠ "id")
    (ho : left.record? (resolution.owner.of (ends link pair)).1
      (resolution.owner.of (ends link pair)).2 = some ownerRecord)
    (ht : left.record? (resolution.owner.other.of (ends link pair)).1
      (resolution.owner.other.of (ends link pair)).2 = some otherRecord)
    (hf : ownerRecord.attributes.get? resolution.association.foreignKey =
      some (.int otherRecord.id)) :
    Leads catalog left (resolution.owner.of (ends link pair)) resolution.association.name
      fun _ records => ∃ row, records = [row] ∧
        left.IsRowOf (resolution.owner.other.of (ends link pair)) row := by
  obtain ⟨row, hrow, hsame⟩ := h.stored ht
  apply h.follow ho
  refine ⟨row, ?_, otherRecord, ht, hsame⟩
  have hfield : ownerRecord.field? resolution.association.foreignKey =
      some (.int otherRecord.id) := by
    unfold Record.field?
    rw [if_neg hid, hf]
  rw [Catalog.follow_of_belongsTo hk hfield, hrow]
  rfl

/-- A record that has taken the key of an owner is selected by that key. -/
theorem Linked.selected (h : Linked catalog source target link resolution left)
    (hid : resolution.association.foreignKey ≠ "id")
    (ht : left.record? (resolution.owner.other.of (ends link pair)).1
      (resolution.owner.other.of (ends link pair)).2 = some otherRecord)
    (hf : otherRecord.attributes.get? resolution.association.foreignKey =
      some (.int ownerRecord.id)) :
    ∃ row ∈ (database left.store).select resolution.association.targetModel
        resolution.association.foreignKey (.int ownerRecord.id),
      left.IsRowOf (resolution.owner.other.of (ends link pair)) row := by
  obtain ⟨row, hrow, hsame⟩ := h.stored ht
  have hfield : otherRecord.field? resolution.association.foreignKey =
      some (.int ownerRecord.id) := by
    unfold Record.field?
    rw [if_neg hid, hf]
  exact ⟨row, Database.mem_select_of_int (Database.mem_of_find? hrow)
    (Record.field?_of_same hsame hfield), otherRecord, ht, hsame⟩

theorem Linked.hasMany (h : Linked catalog source target link resolution left)
    (hk : resolution.association.kind = .hasMany)
    (hid : resolution.association.foreignKey ≠ "id")
    (ho : left.record? (resolution.owner.of (ends link pair)).1
      (resolution.owner.of (ends link pair)).2 = some ownerRecord)
    (ht : left.record? (resolution.owner.other.of (ends link pair)).1
      (resolution.owner.other.of (ends link pair)).2 = some otherRecord)
    (hf : otherRecord.attributes.get? resolution.association.foreignKey =
      some (.int ownerRecord.id)) :
    Leads catalog left (resolution.owner.of (ends link pair)) resolution.association.name
      fun _ records => ∃ row ∈ records,
        left.IsRowOf (resolution.owner.other.of (ends link pair)) row := by
  apply h.follow ho
  rw [Catalog.follow_of_hasMany hk]
  exact h.selected hid ht hf

theorem Linked.hasOne (h : Linked catalog source target link resolution left)
    (hk : resolution.association.kind = .hasOne)
    (hid : resolution.association.foreignKey ≠ "id")
    (ho : left.record? (resolution.owner.of (ends link pair)).1
      (resolution.owner.of (ends link pair)).2 = some ownerRecord)
    (ht : left.record? (resolution.owner.other.of (ends link pair)).1
      (resolution.owner.other.of (ends link pair)).2 = some otherRecord)
    (hf : otherRecord.attributes.get? resolution.association.foreignKey =
      some (.int ownerRecord.id)) :
    Leads catalog left (resolution.owner.of (ends link pair)) resolution.association.name
      fun record records => ∃ row, records = [row] ∧
        row.model = resolution.association.targetModel ∧
        row.field? resolution.association.foreignKey = some (.int record.id) := by
  apply h.follow ho
  obtain ⟨row, hrow, -⟩ := h.selected hid ht hf
  rw [Catalog.follow_of_hasOne hk]
  -- The first one that is selected need not be this row.
  cases hs : (database left.store).select resolution.association.targetModel
      resolution.association.foreignKey (.int ownerRecord.id) with
  | nil =>
    rw [hs] at hrow
    cases hrow
  | cons first rest =>
    have hfirst : first ∈ (database left.store).select resolution.association.targetModel
        resolution.association.foreignKey (.int ownerRecord.id) := by
      rw [hs]
      exact List.mem_cons_self
    refine ⟨first, rfl, ?_, Database.field?_of_mem_select hfirst⟩
    exact (h.sound.numbered _).models first (Database.mem_select.mp hfirst).1

theorem Linked.manyToMany (h : Linked catalog source target link resolution left)
    {through key key' : String} (hk : resolution.association.kind = .manyToMany through key key')
    (hid : key ≠ key' ∧ key ≠ "id" ∧ key' ≠ "id") {joined : Record}
    (ho : left.record? (resolution.owner.of (ends link pair)).1
      (resolution.owner.of (ends link pair)).2 = some ownerRecord)
    (ht : left.record? (resolution.owner.other.of (ends link pair)).1
      (resolution.owner.other.of (ends link pair)).2 = some otherRecord)
    (hj : joined ∈ (database left.store).all through)
    (ha : joined.attributes = ((∅ : AttributeMap).insert key (.int ownerRecord.id)).insert key'
      (.int otherRecord.id)) :
    Leads catalog left (resolution.owner.of (ends link pair)) resolution.association.name
      fun _ records => ∃ row ∈ records,
        left.IsRowOf (resolution.owner.other.of (ends link pair)) row := by
  obtain ⟨hne, hkey, hkey'⟩ := hid
  obtain ⟨row, hrow, hsame⟩ := h.stored ht
  have howner : joined.field? key = some (.int ownerRecord.id) := by
    unfold Record.field?
    rw [if_neg hkey, ha, SortedMap.get?_insert_of_ne _ _ hne, SortedMap.get?_insert_self]
  have hother : joined.field? key' = some (.int otherRecord.id) := by
    unfold Record.field?
    rw [if_neg hkey', ha, SortedMap.get?_insert_self]
  apply h.follow ho
  rw [Catalog.follow_of_manyToMany hk]
  refine ⟨row, List.mem_flatMap.mpr ⟨.int otherRecord.id, ?_, ?_⟩, otherRecord, ht, hsame⟩
  · exact List.mem_filterMap.mpr ⟨joined, Database.mem_select_of_int hj howner, hother⟩
  · rw [Database.select_id_head?, hrow]
    exact List.mem_singleton_self row

end

/-! ## Links -/

section

variable [DatabaseBacked σ] {link : Link} {block left : Block σ}

/-- A link through an association whose key is kept on a side gives the key once to each instance
there, from the first pair that it is in. -/
theorem linkPairs_givenOnSide {resolution : Resolution} {giver holder : Side} {field : String}
    (hw : ∀ pair, linkPair link resolution pair = giveKey (σ := σ) link
      (giver.of (ends link pair)) (holder.of (ends link pair)) field)
    (hh : resolution.holder? = some holder) (hn : (database block.store).Numbered)
    (hp : link.IsSaved block)
    (h : linkPairs link resolution (resolution.written link.pairs) block = .ok () left) :
    (∀ name position, (left.record? name position).map Record.key =
      (block.record? name position).map Record.key) ∧
      ∀ pair, link.IsFirst holder pair → ∃ given record,
        left.record? (giver.of (ends link pair)).1 (giver.of (ends link pair)).2 = some given ∧
        left.record? (holder.of (ends link pair)).1 (holder.of (ends link pair)).2 = some record ∧
        record.attributes.get? field = some (.int given.id) := by
  rw [Resolution.written_of_holder? hh] at h
  have hg := linkPairs_given (fun pair => giver.of (ends link pair))
    (fun pair => holder.of (ends link pair)) hw hn (nodup_ends link holder _)
    (fun pair hm => ⟨isSome_of_mem_pairs hp (mem_of_mem_firstPerHolder hm) giver,
      isSome_of_mem_pairs hp (mem_of_mem_firstPerHolder hm) holder⟩) h
  exact ⟨hg.keys, fun pair hf => hg.given pair (mem_firstPerHolder.mpr ⟨List.not_mem_nil, hf⟩)⟩

theorem linked_of_keys {catalog : Catalog} {source target : Factory} {resolution : Resolution}
    (hsound : left.Sound) (hm : block.view.Modelled catalog) (hb : catalog.SchemasBuilt)
    (hs : catalog.factory? link.source.factory = some source)
    (ht : catalog.factory? link.target.factory = some target)
    (hr : catalog.resolveLink source target link.via = .ok resolution)
    (hk : ∀ name position, (left.record? name position).map Record.key =
      (block.record? name position).map Record.key) :
    Linked catalog source target link resolution left := by
  have hd := Catalog.resolveLink_declared hr
  refine ⟨hsound, fun side pair record hrec => ?_, hd.association? hb, hd.target⟩
  -- The record had the same model before the link.
  have hkey := hk (side.of (ends link pair)).1 (side.of (ends link pair)).2
  rw [hrec, Option.map_some, eq_comm, Option.map_eq_some_iff] at hkey
  obtain ⟨record', hrec', he⟩ := hkey
  rw [record?_eq_view] at hrec'
  obtain ⟨factory, hf, hmodel⟩ := hm (_, _) _ hrec'
  have hfactory : factory = side.of (source, target) := by
    rw [of_ends] at hf
    cases side with
    | source => exact Option.some.inj (hf.symm.trans hs)
    | target => exact Option.some.inj (hf.symm.trans ht)
  rw [← hfactory, ← hmodel]
  exact (congrArg Prod.fst he).symm

/-- Writing for the pairs of a link does what can be read back. -/
theorem linkPairs_readsBack {catalog : Catalog} {source target : Factory} {resolution : Resolution}
    (hn : (database block.store).Numbered) (hp : link.IsSaved block)
    (hid : resolution.association.KeysApart)
    (hl : (∀ name position, (left.record? name position).map Record.key =
      (block.record? name position).map Record.key) →
        Linked catalog source target link resolution left)
    (h : linkPairs link resolution (resolution.written link.pairs) block = .ok () left) :
    ReadsBack catalog link resolution left := by
  unfold Association.KeysApart at hid
  unfold ReadsBack
  dsimp only
  cases hk : resolution.association.kind with
  | belongsTo =>
    rw [hk] at hid
    obtain ⟨hkeys, hgiven⟩ := linkPairs_givenOnSide (linkPair_of_belongsTo hk)
      (Resolution.holder?_of_belongsTo hk) hn hp h
    intro pair hf
    obtain ⟨otherRecord, ownerRecord, ht, ho, hkey⟩ := hgiven pair hf
    exact (hl hkeys).belongsTo hk hid ho ht hkey
  | hasOne =>
    rw [hk] at hid
    obtain ⟨hkeys, hgiven⟩ := linkPairs_givenOnSide (linkPair_of_has (Or.inl hk))
      (Resolution.holder?_of_has (Or.inl hk)) hn hp h
    intro pair hf
    obtain ⟨ownerRecord, otherRecord, ho, ht, hkey⟩ := hgiven pair hf
    exact (hl hkeys).hasOne hk hid ho ht hkey
  | hasMany =>
    rw [hk] at hid
    obtain ⟨hkeys, hgiven⟩ := linkPairs_givenOnSide (linkPair_of_has (Or.inr hk))
      (Resolution.holder?_of_has (Or.inr hk)) hn hp h
    intro pair hf
    obtain ⟨ownerRecord, otherRecord, ho, ht, hkey⟩ := hgiven pair hf
    exact (hl hkeys).hasMany hk hid ho ht hkey
  | manyToMany through key key' =>
    rw [hk] at hid
    rw [Resolution.written_of_manyToMany hk] at h
    obtain ⟨hrecords, -, hjoined⟩ := linkPairs_joined (linkPair_of_manyToMany hk)
      (fun pair hm => ⟨isSome_of_mem_pairs hp hm resolution.owner,
        isSome_of_mem_pairs hp hm resolution.owner.other⟩) h
    intro pair hm
    obtain ⟨ownerRecord, otherRecord, row, ho, ht, hrow, ha⟩ := hjoined pair hm
    rw [← hrecords] at ho ht
    exact (hl fun name position => by rw [hrecords]).manyToMany hk hid ho ht hrow ha

/-- A successful link between saved instances can be read back: whatever happened in the block
before, its association leads from the records of the owners to those of the instances that the
link paired with them. -/
theorem link_readsBack (workshop : Workshop) (store : σ) (attempts : List Attempt) (link : Link)
    (written : Nat) (left : Block σ) (hk : workshop.catalog.KeepsKeys)
    (hb : workshop.catalog.SchemasBuilt) (hr : (database store).Reachable)
    (hs : ∀ attempt ∈ attempts, attempt.statement.LeavesCatalog)
    (hp : link.IsSaved (after (performAll attempts) (start workshop store)))
    (h : Block.link link (after (performAll attempts) (start workshop store)) = .ok written left) :
    ∃ source target resolution,
      workshop.catalog.factory? link.source.factory = some source ∧
      workshop.catalog.factory? link.target.factory = some target ∧
      workshop.catalog.resolveLink source target link.via = .ok resolution ∧
      (resolution.association.KeysApart → ReadsBack workshop.catalog link resolution left) := by
  have hm := performAll_modelled hk hr hs
  obtain ⟨hsound, hc⟩ := performAll_sound hk hr hs
  generalize after (performAll attempts) (start workshop store) = block at hp h hm hsound hc
  have hleft : left.Sound := by
    rw [← after_of_ok h]
    apply Moves.keeps _ hsound
    exact (moves_link link).mono fun _ _ hstep hb => (Step.link hstep).sound hb
  obtain ⟨source, target, resolution, hs', ht', hres, hw⟩ := link_eq_ok h
  rw [hc] at hs' ht' hres
  exact ⟨source, target, resolution, hs', ht', hres, fun hid =>
    linkPairs_readsBack hsound.numbered hp hid
      (fun hkeys => linked_of_keys hleft hm hb hs' ht' hres hkeys) hw⟩

end

/-- A user is the parent of three, of whom it is one itself. -/
theorem link_readsBack_of_children :
    let user : Factory := { name := "user", model := "User" }
    let children : Association :=
      { name := "children", kind := .hasMany, targetModel := "User", foreignKey := "parentId" }
    let workshop : Workshop :=
      { catalog := ((∅ : Catalog).register user).registerSchema
          (({ model := "User" } : Schema).add children) }
    let store : Database := {}
    let attempts : List Attempt :=
      [⟨.declare "user" .none, false⟩, ⟨.declare "users" (.count 3), false⟩]
    let block := after (performAll attempts) (start workshop store)
    let link : Link :=
      { source := ⟨"user", .singleton, [0]⟩, target := ⟨"user", .collection, [0, 1, 2]⟩ }
    Ends (Block.link link block) (fun written left => written = 3 ∧
      ReadsBack workshop.catalog link { owner := .source, association := children } left)
      (fun _ _ => False) := by
  intro user children workshop store attempts block link
  have hwritten : Ends (Block.link link block) (fun written _ => written = 3)
      (fun _ _ => False) := by decide +kernel
  have hsaved : link.IsSaved block :=
    ⟨by decide +kernel, by decide +kernel⟩
  cases h : Block.link link block with
  | error error left =>
    rw [h] at hwritten
    exact hwritten.elim
  | ok written left =>
    rw [h] at hwritten
    refine ⟨hwritten, ?_⟩
    obtain ⟨source, target, resolution, hs, ht, hr, hread⟩ :=
      link_readsBack workshop store attempts link written left
        (Catalog.KeepsKeys.register (fun _ _ h => by cases h) fun _ hh => by cases hh)
        (fun model schema hm => by
          change (SortedMap.insert ∅ "User" _).get? model = some schema at hm
          rw [SortedMap.get?_insert] at hm
          split at hm
          · cases hm
            exact (Schema.Built.new "User").add children
          · cases hm)
        Database.Reachable.start
        (fun attempt ha => by
          rw [List.mem_cons, List.mem_singleton] at ha
          rcases ha with rfl | rfl <;> trivial)
        hsaved h
    have hsource : workshop.catalog.factory? "user" = some user := SortedMap.get?_insert_self ..
    have hs' : source = user := Option.some.inj (hs.symm.trans hsource)
    have ht' : target = user := Option.some.inj (ht.symm.trans hsource)
    have hres : workshop.catalog.resolveLink user user none =
      .ok { owner := .source, association := children } := rfl
    rw [hs', ht'] at hr
    have hresolution : resolution = { owner := .source, association := children } :=
      Except.ok.inj (hr.symm.trans hres)
    rw [hresolution] at hread
    exact hread (show "parentId" ≠ "id" by decide)

end Block

end Fixtures
