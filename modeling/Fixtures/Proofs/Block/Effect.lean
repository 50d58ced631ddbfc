import Fixtures.Proofs.Block.HashWrites
import Fixtures.Proofs.Block.Singletons
import Mathlib.Data.List.Forall2

/-!
# What a link does

A link writes for pairs of instances, one after the other.  Where one side keeps the key, each of
its instances takes the key of its first partner, in its attributes and in its record, and where a
third model keeps the keys, each pair gets a row of it.  Nothing else changes (`Block.Writes`).  A
link that fails has done all of that for the pairs before the one that it fails at, and for that one
as much as its failure lets it (`Block.FailsAt`).
-/

namespace Fixtures

open DatabaseBacked

/-- The instance with a key in a field, also in its record if it has one. -/
def Instance.withKey (item : Instance) (field : String) (id : Int) : Instance :=
  { item with
    attributes := item.attributes.insert field (.int id)
    record := item.record.map fun record =>
      { record with attributes := record.attributes.insert field (.int id) } }

namespace Block

variable {σ : Type} {block middle left : Block σ} {name field : String} {position : Nat}

/-! ## Changes of instances -/

/-- Instances and the store may be different, and nothing else. -/
structure Framed (block left : Block σ) : Prop where
  workshop : left.workshop = block.workshop
  marks : ∀ name,
    (left.rosters.get? name).map Roster.marks = (block.rosters.get? name).map Roster.marks

theorem Framed.refl (block : Block σ) : block.Framed block := ⟨rfl, fun _ => rfl⟩

theorem Framed.trans (h : block.Framed middle) (h' : middle.Framed left) : block.Framed left :=
  ⟨h'.workshop.trans h.workshop, fun name => (h'.marks name).trans (h.marks name)⟩

theorem Framed.named (h : block.Framed left) (hn : block.Named) : left.Named := by
  intro name roster hr
  have hm := h.marks name
  rw [hr, Option.map_some, eq_comm, Option.map_eq_some_iff] at hm
  obtain ⟨old, ho, he⟩ := hm
  rw [← hn name old ho]
  exact (congrArg Roster.factory he).symm

theorem framed_withInstance {roster : Roster} (hr : block.rosters.get? name = some roster)
    (position : Nat) (pair : Instance × σ) :
    block.Framed (block.withInstance name roster position pair) := by
  refine ⟨rfl, fun other => ?_⟩
  show ((block.rosters.insert name (roster.setInstance position pair.1)).get? other).map _ = _
  rw [SortedMap.get?_insert]
  split
  · rename_i hn
    rw [hn, hr]
    rfl
  · rfl

theorem instance?_withInstance {roster : Roster} {item : Instance}
    (hr : block.rosters.get? name = some roster) (hi : roster.instance? position = some item)
    (pair : Instance × σ) (name' : String) (position' : Nat) :
    (block.withInstance name roster position pair).instance? name' position' =
      if (name', position') = (name, position) then some pair.1
      else block.instance? name' position' := by
  show ((block.rosters.insert name (roster.setInstance position pair.1)).get? name').bind _ = _
  rw [SortedMap.get?_insert]
  by_cases hn : name' = name
  · subst hn
    rw [if_pos rfl]
    show (roster.setInstance position pair.1).instance? position' = _
    rw [Roster.instance?_setInstance hi]
    unfold instance?
    rw [hr]
    simp
  · rw [if_neg hn, if_neg fun he => hn (congrArg Prod.fst he)]
    rfl

theorem recordId?_eq_instance? (block : Block σ) (name : String) (position : Nat) :
    block.recordId? name position =
      ((block.instance? name position).bind (·.record)).map (·.id) := by
  rw [recordId?_eq, record?_eq_instance?]

/-! ## Updates for keys -/

variable {link : Link} {giver holder : Nat × Nat → String × Nat} {pair : Nat × Nat}
  {pairs rest : List (Nat × Nat)}

/-- The updates that a store gets as keys are given, one for each holder that has a record. -/
def keyWrites (giver holder : Nat × Nat → String × Nat) (field : String) (pairs : List (Nat × Nat))
    (block : Block σ) : List (Record × AttributeMap) :=
  pairs.filterMap fun pair => do
    let id ← block.recordId? (giver pair).1 (giver pair).2
    let record ← block.record? (holder pair).1 (holder pair).2
    return (record, record.attributes.insert field (.int id))

/-- The store takes the updates, one after the other. -/
inductive Accepts [RecordStore σ] : List (Record × AttributeMap) → σ → σ → Prop
  | nil (store : σ) : Accepts [] store store
  | cons {record found : Record} {attributes : AttributeMap} {store taken later : σ}
      {writes : List (Record × AttributeMap)}
      (h : RecordStore.replace record attributes store = .ok found taken)
      (h' : Accepts writes taken later) : Accepts ((record, attributes) :: writes) store later

theorem Accepts.append [RecordStore σ] {writes writes' : List (Record × AttributeMap)}
    {store taken later : σ} (h : Accepts writes store taken) (h' : Accepts writes' taken later) :
    Accepts (writes ++ writes') store later := by
  induction h with
  | nil => exact h'
  | cons hr _ ih => exact Accepts.cons hr (ih h')

theorem Accepts.eq_replaceAll [RecordStore σ] {writes : List (Record × AttributeMap)}
    {store later : σ} (h : Accepts writes store later) : later = replaceAll writes store := by
  induction h with
  | nil => rfl
  | cons hr _ ih =>
    rw [ih]
    unfold replaceAll
    rw [List.foldl_cons, after_of_ok hr]

theorem keyWrites_congr
    (hg : ∀ pair ∈ pairs, middle.recordId? (giver pair).1 (giver pair).2 =
      block.recordId? (giver pair).1 (giver pair).2)
    (hh : ∀ pair ∈ pairs, middle.record? (holder pair).1 (holder pair).2 =
      block.record? (holder pair).1 (holder pair).2) :
    keyWrites giver holder field pairs middle = keyWrites giver holder field pairs block := by
  unfold keyWrites
  apply List.filterMap_congr
  intro pair hp
  rw [hg pair hp, hh pair hp]

theorem keyWrites_singleton (field : String) {id : Int} {item : Instance}
    (hg : block.recordId? (giver pair).1 (giver pair).2 = some id)
    (hh : block.instance? (holder pair).1 (holder pair).2 = some item) :
    keyWrites giver holder field [pair] block =
      (item.record.map fun record =>
        (record, record.attributes.insert field (.int id))).toList := by
  unfold keyWrites
  rw [List.filterMap_cons, hg, record?_eq_instance?, hh]
  cases hr : item.record with
  | none => simp [hr]
  | some record => simp [hr]

/-! ## Giving keys -/

variable [RecordStore σ]

theorem revise_of_missing {changes : AttributeMap} (hn : block.Named)
    (h : block.instance? name position = none) :
    revise name position changes block = .error (.noSuchAccessor s!"{name}[{position}]") block := by
  rw [revise_eq]
  unfold instance? at h
  cases hr : block.rosters.get? name with
  | none => rfl
  | some roster =>
    rw [hr, Option.bind_some] at h
    dsimp only
    rw [h, hn name roster hr]

theorem revise_of_instance {item : Instance} (changes : AttributeMap)
    (h : block.instance? name position = some item) :
    ∃ roster, block.rosters.get? name = some roster ∧ roster.instance? position = some item ∧
      revise name position changes block =
        match Instance.revise changes (item, block.store) with
        | .ok _ left => .ok () (block.withInstance name roster position left)
        | .error error left => .error error (block.withInstance name roster position left) := by
  rw [revise_eq]
  unfold instance? at h
  cases hr : block.rosters.get? name with
  | none =>
    rw [hr] at h
    cases h
  | some roster =>
    rw [hr, Option.bind_some] at h
    dsimp only
    rw [h]
    exact ⟨roster, rfl, h, rfl⟩

variable [DatabaseBacked σ]

/-- The holders of the pairs have taken the keys of their givers, with one update of each record,
and nothing else has changed. -/
structure GivesKeys (giver holder : Nat × Nat → String × Nat) (field : String)
    (pairs : List (Nat × Nat)) (block left : Block σ) : Prop where
  framed : block.Framed left
  given : ∀ pair ∈ pairs, ∃ id item,
    block.recordId? (giver pair).1 (giver pair).2 = some id ∧
      block.instance? (holder pair).1 (holder pair).2 = some item ∧
      left.instance? (holder pair).1 (holder pair).2 = some (item.withKey field id)
  others : ∀ name position, (name, position) ∉ pairs.map holder →
    left.instance? name position = block.instance? name position
  store : Accepts (keyWrites giver holder field pairs block) block.store left.store
  -- No row is added.
  rows : ∀ model, ((database left.store).all model).map (·.id) =
    ((database block.store).all model).map (·.id)

/-- How giving a key can fail, and what it leaves then. -/
inductive KeyFails (link : Link) (giver holder : String × Nat) (field : String)
    (block : Block σ) : Error → Block σ → Prop
  | unsaved (hg : block.recordId? giver.1 giver.2 = none) :
      KeyFails link giver holder field block (.linkResolution link.source.factory
        link.target.factory (.notPersisted giver.1 giver.2)) block
  | missing {id : Int} (hg : block.recordId? giver.1 giver.2 = some id)
      (hh : block.instance? holder.1 holder.2 = none) :
      KeyFails link giver holder field block
        (.noSuchAccessor s!"{holder.1}[{holder.2}]") block
  -- The attributes have the key by the time that the store refuses it for the record.
  | refused {id : Int} {item : Instance} {record : Record} {refusal : StoreError} {left : Block σ}
      (hg : block.recordId? giver.1 giver.2 = some id)
      (hh : block.instance? holder.1 holder.2 = some item) (hr : item.record = some record)
      (hs : RecordStore.replace record (record.attributes.insert field (.int id)) block.store =
        .error refusal left.store)
      (hd : database left.store = database block.store) (hf : block.Framed left)
      (hi : ∀ name position, left.instance? name position =
        if (name, position) = holder then
          some { item with attributes := item.attributes.insert field (.int id) }
        else block.instance? name position) :
      KeyFails link giver holder field block (.store refusal) left

theorem GivesKeys.refl (block : Block σ) : GivesKeys giver holder field [] block block :=
  ⟨Framed.refl block, fun _ hm => (List.not_mem_nil hm).elim, fun _ _ _ => rfl,
    Accepts.nil block.store, fun _ => rfl⟩

/-- No instance gets another key of its own. -/
theorem GivesKeys.recordId? (h : GivesKeys giver holder field pairs block left) (name : String)
    (position : Nat) : left.recordId? name position = block.recordId? name position := by
  rw [recordId?_eq_instance?, recordId?_eq_instance?]
  by_cases hm : (name, position) ∈ pairs.map holder
  · obtain ⟨pair, hp, he⟩ := List.mem_map.mp hm
    obtain ⟨id, item, -, hi, hl⟩ := h.given pair hp
    rw [he] at hi hl
    rw [hi, hl]
    exact Option.map_map ..
  · rw [h.others name position hm]

theorem GivesKeys.cons (h : GivesKeys giver holder field [pair] block middle)
    (h' : GivesKeys giver holder field rest middle left)
    (hp : holder pair ∉ rest.map holder) :
    GivesKeys giver holder field (pair :: rest) block left := by
  -- The later pairs are for other holders.
  have hlater : ∀ later ∈ rest,
      middle.instance? (holder later).1 (holder later).2 =
        block.instance? (holder later).1 (holder later).2 := by
    intro later hm
    apply h.others
    intro he
    exact hp (List.mem_map.mpr ⟨later, hm, List.mem_singleton.mp he⟩)
  refine ⟨h.framed.trans h'.framed, fun pair' hm => ?_, fun name position hn => ?_, ?_,
    fun model => (h'.rows model).trans (h.rows model)⟩
  · rcases List.mem_cons.mp hm with rfl | hm
    · obtain ⟨id, item, hg, hi, hl⟩ := h.given pair' List.mem_cons_self
      exact ⟨id, item, hg, hi, (h'.others _ _ hp).trans hl⟩
    · obtain ⟨id, item, hg, hi, hl⟩ := h'.given pair' hm
      exact ⟨id, item, (h.recordId? _ _).symm.trans hg, (hlater pair' hm).symm.trans hi, hl⟩
  · rw [List.map_cons, List.mem_cons, not_or] at hn
    rw [h'.others name position hn.2]
    exact h.others name position fun he => hn.1 (List.mem_singleton.mp he)
  · have hwrites : keyWrites giver holder field rest middle =
        keyWrites giver holder field rest block := by
      apply keyWrites_congr (fun later _ => h.recordId? _ _)
      intro later hm
      rw [record?_eq_instance?, record?_eq_instance?, hlater later hm]
    have hstore := h.store.append (hwrites ▸ h'.store)
    unfold keyWrites at hstore ⊢
    rwa [← List.filterMap_append, List.singleton_append] at hstore

/-- The key is in the instance, and in the store if there is a record to update. -/
theorem givesKeys_withInstance {id : Int} {item : Instance} {roster : Roster} {store : σ}
    (hg : block.recordId? (giver pair).1 (giver pair).2 = some id)
    (hh : block.instance? (holder pair).1 (holder pair).2 = some item)
    (hr : block.rosters.get? (holder pair).1 = some roster)
    (hi : roster.instance? (holder pair).2 = some item)
    (hs : Accepts (keyWrites giver holder field [pair] block) block.store store) :
    GivesKeys giver holder field [pair] block
      (block.withInstance (holder pair).1 roster (holder pair).2
        (item.withKey field id, store)) := by
  have hat := instance?_withInstance hr hi (item.withKey field id, store)
  refine ⟨framed_withInstance hr _ _, fun pair' hm => ?_, fun name position hm => ?_, hs,
    fun model => ?_⟩
  · rw [List.mem_singleton.mp hm]
    exact ⟨id, item, hg, hh, by rw [hat, if_pos rfl]⟩
  · rw [hat, if_neg fun he => hm (List.mem_singleton.mpr he)]
  · show ((database store).all model).map (·.id) = _
    rw [hs.eq_replaceAll]
    exact ids_replaceAll _ block.store model

theorem giveKey_effect (giver holder : Nat × Nat → String × Nat)
    (hn : (database block.store).Numbered) (hnamed : block.Named)
    (pair : Nat × Nat) :
    Ends (giveKey link (giver pair) (holder pair) field block)
      (fun _ left => (database left.store).Numbered ∧
        GivesKeys giver holder field [pair] block left)
      (KeyFails link (giver pair) (holder pair) field block) := by
  unfold giveKey
  cases hg : block.recordId? (giver pair).1 (giver pair).2 with
  | none =>
    rw [bind_of_error (linkedId_of_none hg link)]
    exact KeyFails.unsaved hg
  | some id =>
    rw [bind_of_ok (linkedId_of_some hg link)]
    cases hh : block.instance? (holder pair).1 (holder pair).2 with
    | none =>
      rw [revise_of_missing hnamed hh]
      exact KeyFails.missing hg hh
    | some item =>
      obtain ⟨roster, hroster, hi, hrevise⟩ :=
        revise_of_instance (SortedMap.insert ∅ field (.int id)) hh
      have hwrites := keyWrites_singleton field hg hh
      rw [hrevise]
      cases hr : item.record with
      | none =>
        have hkey : item.revised (SortedMap.insert ∅ field (.int id)) = item.withKey field id := by
          unfold Instance.withKey Instance.revised
          rw [hr]
          rfl
        rw [Instance.revise_of_none _ _ hr, hkey]
        rw [hr] at hwrites
        refine ⟨hn, givesKeys_withInstance hg hh hroster hi ?_⟩
        rw [hwrites]
        exact Accepts.nil block.store
      | some record =>
        rw [Instance.revise_of_some _ _ hr, SortedMap.overlay_insert]
        rw [hr] at hwrites
        cases hs : RecordStore.replace record (record.attributes.insert field (.int id))
            block.store with
        | ok found store =>
          have hd := replace_ok hs
          have hkey : ({ item.revised (SortedMap.insert ∅ field (.int id)) with
              record := some found } : Instance) = item.withKey field id := by
            unfold Instance.withKey Instance.revised
            rw [hr, hn.replaced_eq hd]
            rfl
          dsimp only
          rw [hkey]
          refine ⟨hn.replace hd, givesKeys_withInstance hg hh hroster hi ?_⟩
          rw [hwrites]
          exact Accepts.cons hs (Accepts.nil store)
        | error refusal store =>
          exact KeyFails.refused hg hh hr hs (replace_error hs) (framed_withInstance hroster _ _)
            (instance?_withInstance hroster hi _)

/-! ## Joining -/

variable {owner other : Nat × Nat → String × Nat} {through ownerKey otherKey : String}

/-- What a row says that joins two instances.  If both keys go by one name, the second one
counts. -/
def joining (ownerKey otherKey : String) (ownerId otherId : Int) : AttributeMap :=
  ((∅ : AttributeMap).insert ownerKey (.int ownerId)).insert otherKey (.int otherId)

/-- The rows join the instances of the pairs, one for each pair and in their order. -/
def AreJoined (owner other : Nat × Nat → String × Nat) (through ownerKey otherKey : String)
    (block : Block σ) (pairs : List (Nat × Nat)) (rows : List Record) : Prop :=
  List.Forall₂ (fun pair row => ∃ ownerId otherId,
    block.recordId? (owner pair).1 (owner pair).2 = some ownerId ∧
      block.recordId? (other pair).1 (other pair).2 = some otherId ∧
      row.model = through ∧ row.attributes = joining ownerKey otherKey ownerId otherId) pairs rows

/-- The pairs have their rows in the model between the two, behind those that it had, and nothing
else has changed. -/
structure Joins (owner other : Nat × Nat → String × Nat) (through ownerKey otherKey : String)
    (pairs : List (Nat × Nat)) (block left : Block σ) : Prop where
  workshop : left.workshop = block.workshop
  rosters : left.rosters = block.rosters
  joined : ∃ rows, AreJoined owner other through ownerKey otherKey block pairs rows ∧
    (database left.store).all through = (database block.store).all through ++ rows
  others : ∀ model, model ≠ through →
    (database left.store).all model = (database block.store).all model

/-- How joining two instances can fail.  None of it leaves anything behind. -/
inductive JoinFails (link : Link) (owner other : String × Nat) (through ownerKey otherKey : String)
    (block : Block σ) : Error → Block σ → Prop
  | ownerUnsaved (ho : block.recordId? owner.1 owner.2 = none) :
      JoinFails link owner other through ownerKey otherKey block (.linkResolution
        link.source.factory link.target.factory (.notPersisted owner.1 owner.2)) block
  | otherUnsaved {ownerId : Int} (ho : block.recordId? owner.1 owner.2 = some ownerId)
      (ht : block.recordId? other.1 other.2 = none) :
      JoinFails link owner other through ownerKey otherKey block (.linkResolution
        link.source.factory link.target.factory (.notPersisted other.1 other.2)) block
  | refused {ownerId otherId : Int} {refusal : StoreError} {store : σ}
      (ho : block.recordId? owner.1 owner.2 = some ownerId)
      (ht : block.recordId? other.1 other.2 = some otherId)
      (hs : RecordStore.insert through (joining ownerKey otherKey ownerId otherId) block.store =
        .error refusal store)
      (hd : database store = database block.store) :
      JoinFails link owner other through ownerKey otherKey block (.store refusal)
        { block with store }

theorem Joins.refl (block : Block σ) : Joins owner other through ownerKey otherKey [] block block :=
  ⟨rfl, rfl, ⟨[], List.Forall₂.nil, (List.append_nil _).symm⟩, fun _ _ => rfl⟩

theorem Joins.cons (h : Joins owner other through ownerKey otherKey [pair] block middle)
    (h' : Joins owner other through ownerKey otherKey rest middle left) :
    Joins owner other through ownerKey otherKey (pair :: rest) block left := by
  obtain ⟨rows, hrows, hall⟩ := h.joined
  obtain ⟨rows', hrows', hall'⟩ := h'.joined
  have hids : middle.recordId? = block.recordId? := by
    unfold Block.recordId?
    rw [h.rosters]
  refine ⟨h'.workshop.trans h.workshop, h'.rosters.trans h.rosters, ⟨rows ++ rows', ?_, ?_⟩,
    fun model hm => (h'.others model hm).trans (h.others model hm)⟩
  · unfold AreJoined at hrows hrows' ⊢
    rw [hids] at hrows'
    exact List.rel_append hrows hrows'
  · rw [hall', hall, List.append_assoc]

theorem join_effect (owner other : Nat × Nat → String × Nat)
    (hn : (database block.store).Numbered) (pair : Nat × Nat) :
    Ends (join link (owner pair) (other pair) through ownerKey otherKey block)
      (fun _ left => (database left.store).Numbered ∧
        Joins owner other through ownerKey otherKey [pair] block left)
      (JoinFails link (owner pair) (other pair) through ownerKey otherKey block) := by
  unfold join
  cases ho : block.recordId? (owner pair).1 (owner pair).2 with
  | none =>
    rw [bind_of_error (linkedId_of_none ho link)]
    exact JoinFails.ownerUnsaved ho
  | some ownerId =>
    rw [bind_of_ok (linkedId_of_some ho link)]
    cases ht : block.recordId? (other pair).1 (other pair).2 with
    | none =>
      rw [bind_of_error (linkedId_of_none ht link)]
      exact JoinFails.otherUnsaved ho ht
    | some otherId =>
      rw [bind_of_ok (linkedId_of_some ht link)]
      unfold insertRecord
      cases hs : RecordStore.insert through (joining ownerKey otherKey ownerId otherId)
          block.store with
      | ok row store =>
        have hd := insert_ok hs
        obtain ⟨hm, ha, hall⟩ := Database.all_insert hd
        unfold joining at hs
        rw [hs]
        refine ⟨hn.insert hd, rfl, rfl, ⟨[row], ?_, ?_⟩, fun model hne => ?_⟩
        · exact List.Forall₂.cons ⟨ownerId, otherId, ho, ht, hm, ha⟩ List.Forall₂.nil
        · exact (hall through).trans (if_pos rfl)
        · exact (hall model).trans (if_neg hne)
      | error refusal store =>
        have hfails : JoinFails link (owner pair) (other pair) through ownerKey otherKey block
          (.store refusal) { block with store } := JoinFails.refused ho ht hs (insert_error hs)
        unfold joining at hs
        rw [hs]
        exact hfails

/-! ## Links -/

variable {resolution : Resolution}

/-- What a link writes for pairs. -/
def Writes (link : Link) (resolution : Resolution) (pairs : List (Nat × Nat))
    (block left : Block σ) : Prop :=
  let owner := fun pair => resolution.owner.of (ends link pair)
  let other := fun pair => resolution.owner.other.of (ends link pair)
  match resolution.association.kind with
  | .belongsTo => GivesKeys other owner resolution.association.foreignKey pairs block left
  | .hasOne | .hasMany => GivesKeys owner other resolution.association.foreignKey pairs block left
  | .manyToMany through ownerKey otherKey =>
    Joins owner other through ownerKey otherKey pairs block left

/-- How a link can fail at a pair. -/
def FailsAt (link : Link) (resolution : Resolution) (pair : Nat × Nat) (block : Block σ)
    (error : Error) (left : Block σ) : Prop :=
  let owner := resolution.owner.of (ends link pair)
  let other := resolution.owner.other.of (ends link pair)
  match resolution.association.kind with
  | .belongsTo => KeyFails link other owner resolution.association.foreignKey block error left
  | .hasOne | .hasMany =>
    KeyFails link owner other resolution.association.foreignKey block error left
  | .manyToMany through ownerKey otherKey =>
    JoinFails link owner other through ownerKey otherKey block error left

theorem Writes.refl (block : Block σ) : Writes link resolution [] block block := by
  unfold Writes
  dsimp only
  split
  · exact GivesKeys.refl block
  · exact GivesKeys.refl block
  · exact GivesKeys.refl block
  · exact Joins.refl block

theorem Writes.cons (h : Writes link resolution [pair] block middle)
    (h' : Writes link resolution rest middle left)
    (hp : ∀ side, resolution.holder? = some side →
      side.of (ends link pair) ∉ rest.map fun pair => side.of (ends link pair)) :
    Writes link resolution (pair :: rest) block left := by
  unfold Writes at h h' ⊢
  cases hk : resolution.association.kind with
  | belongsTo =>
    rw [hk] at h h'
    exact h.cons h' (hp _ (Resolution.holder?_of_belongsTo hk))
  | hasOne =>
    rw [hk] at h h'
    exact h.cons h' (hp _ (Resolution.holder?_of_has (Or.inl hk)))
  | hasMany =>
    rw [hk] at h h'
    exact h.cons h' (hp _ (Resolution.holder?_of_has (Or.inr hk)))
  | manyToMany through ownerKey otherKey =>
    rw [hk] at h h'
    exact h.cons h'

theorem linkPair_writes (resolution : Resolution) (hn : (database block.store).Numbered)
    (hnamed : block.Named) (pair : Nat × Nat) :
    Ends (linkPair link resolution pair block)
      (fun _ left => ((database left.store).Numbered ∧ left.Named) ∧
        Writes link resolution [pair] block left)
      (FailsAt link resolution pair block) := by
  have hgive : ∀ (giver holder : Side) (field : String),
      Ends (giveKey link (giver.of (ends link pair)) (holder.of (ends link pair)) field block)
        (fun _ left => ((database left.store).Numbered ∧ left.Named) ∧
          GivesKeys (fun pair => giver.of (ends link pair)) (fun pair => holder.of (ends link pair))
            field [pair] block left)
        (KeyFails link (giver.of (ends link pair)) (holder.of (ends link pair)) field block) := by
    intro giver holder field
    apply (giveKey_effect (fun pair => giver.of (ends link pair))
      (fun pair => holder.of (ends link pair)) hn hnamed pair).mono
    · rintro _ left ⟨hn', hg⟩
      exact ⟨⟨hn', hg.framed.named hnamed⟩, hg⟩
    · exact fun _ _ h => h
  unfold Writes FailsAt
  cases hk : resolution.association.kind with
  | belongsTo =>
    rw [linkPair_of_belongsTo hk]
    exact hgive _ _ _
  | hasOne =>
    rw [linkPair_of_has (Or.inl hk)]
    exact hgive _ _ _
  | hasMany =>
    rw [linkPair_of_has (Or.inr hk)]
    exact hgive _ _ _
  | manyToMany through ownerKey otherKey =>
    rw [linkPair_of_manyToMany hk]
    apply (join_effect (fun pair => resolution.owner.of (ends link pair))
      (fun pair => resolution.owner.other.of (ends link pair)) hn pair).mono
    · rintro _ left ⟨hn', hj⟩
      refine ⟨⟨hn', ?_⟩, hj⟩
      unfold Named
      rw [hj.rosters]
      exact hnamed
    · exact fun _ _ h => h

theorem nodup_written (link : Link) {side : Side} (h : resolution.holder? = some side) :
    ((resolution.written link.pairs).map fun pair => side.of (ends link pair)).Nodup := by
  rw [Resolution.written_of_holder? h]
  exact nodup_ends link side link.pairs

/-- A link that fails at a pair has written for those before it. -/
theorem linkPairs_writes (resolution : Resolution) (link : Link)
    (hn : (database block.store).Numbered) (hnamed : block.Named)
    (hp : ∀ side, resolution.holder? = some side →
      (pairs.map fun pair => side.of (ends link pair)).Nodup) :
    Ends (linkPairs link resolution pairs block)
      (fun _ left => Writes link resolution pairs block left)
      (fun error left => ∃ done pair rest middle, pairs = done ++ pair :: rest ∧
        Writes link resolution done block middle ∧
          FailsAt link resolution pair middle error left) := by
  induction pairs generalizing block with
  | nil => exact Writes.refl block
  | cons pair rest ih =>
    have hnodup : ∀ side, resolution.holder? = some side →
        side.of (ends link pair) ∉ (rest.map fun pair => side.of (ends link pair)) ∧
          (rest.map fun pair => side.of (ends link pair)).Nodup := fun side hs =>
      List.nodup_cons.mp (hp side hs)
    apply Ends.bind ((linkPair_writes resolution hn hnamed pair).mono (fun _ _ h => h) _)
    · rintro _ middle ⟨⟨hn', hnamed'⟩, hfirst⟩
      apply (ih hn' hnamed' fun side hs => (hnodup side hs).2).mono
      · intro _ left hrest
        exact hfirst.cons hrest fun side hs => (hnodup side hs).1
      · rintro error left ⟨done, failed, later, before, rfl, hdone, hfails⟩
        refine ⟨pair :: done, failed, later, before, rfl, hfirst.cons hdone fun side hs hm => ?_,
          hfails⟩
        apply (hnodup side hs).1
        rw [List.map_append]
        exact List.mem_append_left _ hm
    · intro error left hfails
      exact ⟨[], pair, rest, block, rfl, Writes.refl block, hfails⟩

/-- The pairs that a link writes for: where one side keeps the key, those that come first for an
instance there, and all pairs where a third model keeps the keys. -/
def Keeps (resolution : Resolution) (all kept : List (Nat × Nat)) : Prop :=
  match resolution.association.kind with
  | .belongsTo => KeptFirst resolution.owner.of all kept
  | .hasOne | .hasMany => KeptFirst resolution.owner.other.of all kept
  | .manyToMany .. => kept = all

theorem keeps_written (resolution : Resolution) (pairs : List (Nat × Nat)) :
    Keeps resolution pairs (resolution.written pairs) := by
  have hfirst : ∀ {side : Side}, resolution.holder? = some side →
      KeptFirst side.of pairs (resolution.written pairs) := by
    intro side hside
    rw [Resolution.written_of_holder? hside]
    exact keptFirst_firstPerHolder side.of pairs
  unfold Keeps
  cases hk : resolution.association.kind with
  | belongsTo => exact hfirst (Resolution.holder?_of_belongsTo hk)
  | hasOne => exact hfirst (Resolution.holder?_of_has (Or.inl hk))
  | hasMany => exact hfirst (Resolution.holder?_of_has (Or.inr hk))
  | manyToMany => exact Resolution.written_of_manyToMany hk pairs

/-- A link that succeeds writes for the pairs that it keeps, and answers their number.  One that
fails has written for those before a pair, and fails at that one. -/
theorem link_writes (workshop : Workshop) (store : σ) (attempts : List Attempt) (link : Link)
    (source target : Factory) (resolution : Resolution) (h : (database store).Reachable) :
    let block := after (performAll attempts) (start workshop store)
    let pairs := resolution.written link.pairs
    block.workshop.catalog.factory? link.source.factory = some source →
    block.workshop.catalog.factory? link.target.factory = some target →
    block.workshop.catalog.resolveLink source target link.via = .ok resolution →
    Keeps resolution link.pairs pairs ∧
      Ends (Block.link link block)
        (fun written left => written = pairs.length ∧ Writes link resolution pairs block left)
        (fun error left => ∃ done pair rest middle, pairs = done ++ pair :: rest ∧
          Writes link resolution done block middle ∧
            FailsAt link resolution pair middle error left) := by
  intro block pairs hs ht hr
  have hends := linkPairs_writes resolution link (numbered_performAll attempts _ h.numbered)
    (performAll_named workshop store attempts) fun side hside => nodup_written link hside
  refine ⟨keeps_written resolution link.pairs, ?_⟩
  rw [link_eq, Catalog.factory_eq_ok_iff.mpr hs]
  dsimp only
  rw [Catalog.factory_eq_ok_iff.mpr ht]
  dsimp only
  rw [hr]
  dsimp only
  cases hw : linkPairs link resolution pairs block with
  | ok _ left =>
    rw [hw] at hends
    exact ⟨rfl, hends⟩
  | error error left =>
    rw [hw] at hends
    exact hends

/-- Of two users that a post is linked to, it belongs to the first. -/
theorem link_writes_of_several :
    let user : Factory := { name := "user", model := "User" }
    let post : Factory := { name := "post", model := "Post" }
    let author : Association :=
      { name := "author", kind := .belongsTo, targetModel := "User", foreignKey := "userId" }
    let workshop : Workshop :=
      { catalog := (((∅ : Catalog).register user).register post).registerSchema
          (({ model := "Post" } : Schema).add author) }
    let store : Database := {}
    let attempts : List Attempt :=
      [⟨.declare "post" .none, false⟩, ⟨.declare "users" (.count 2), false⟩]
    let block := after (performAll attempts) (start workshop store)
    let link : Link :=
      { source := ⟨"post", .singleton, [0]⟩, target := ⟨"user", .collection, [0, 1]⟩ }
    link.pairs = [(0, 0), (0, 1)] ∧
      Ends (Block.link link block) (fun written left => written = 1 ∧
        Writes link { owner := .source, association := author } [(0, 0)] block left)
        (fun _ _ => False) := by
  intro user post author workshop store attempts block link
  refine ⟨by decide, ?_⟩
  have hc : block.workshop.catalog = workshop.catalog := performAll_catalog (by decide +kernel)
  have hpost : workshop.catalog.factory? "post" = some post := SortedMap.get?_insert_self ..
  have huser : workshop.catalog.factory? "user" = some user :=
    (SortedMap.get?_insert_of_ne _ post (by decide)).trans (SortedMap.get?_insert_self ..)
  have hresolve : block.workshop.catalog.resolveLink post user Option.none =
      .ok { owner := .source, association := author } := eq_ok_of_toOption (by decide +kernel)
  have hends : Ends (Block.link link block) (fun _ _ => True) (fun _ _ => False) := by
    decide +kernel
  have hwrites := (link_writes workshop store attempts link post user
    { owner := .source, association := author } Database.Reachable.start (hc ▸ hpost)
    (hc ▸ huser) hresolve).2
  exact (hwrites.and hends).mono (fun _ _ h => h.1) fun _ _ h => h.2

end Block

end Fixtures
