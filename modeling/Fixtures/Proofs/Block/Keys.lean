import Fixtures.Proofs.Block.Records
import Fixtures.Proofs.Block.Reverse

/-!
# Keys that a link writes

A pair of a link is written by giving one instance the key of the other, or by a record that joins
the two.  Giving a key changes the record of one instance and leaves its own key, so every instance
that takes a key in the course of a link, and takes only one, has it in the end (`linkPairs_given`).
Records that join two others are all there in the end (`linkPairs_joined`).
-/

namespace Fixtures

open DatabaseBacked

namespace Block

variable {σ : Type} {block left : Block σ} {link : Link}

/-! ## Records and keys of instances -/

theorem recordId?_eq (block : Block σ) (name : String) (position : Nat) :
    block.recordId? name position = (block.record? name position).map (·.id) := by
  unfold recordId? record? Roster.record?
  cases block.rosters.get? name with
  | none => rfl
  | some roster =>
    show (roster.instance? position).bind _ = ((roster.instance? position).bind _).map _
    cases hi : roster.instance? position with
    | none => rfl
    | some item =>
      show item.record.bind _ = Option.map _ item.record
      cases item.record <;> rfl

theorem record?_withInstance {name : String} {roster : Roster} {position : Nat} {item : Instance}
    (hr : block.rosters.get? name = some roster) (hi : roster.instance? position = some item)
    (pair : Instance × σ) (name' : String) (position' : Nat) :
    (block.withInstance name roster position pair).record? name' position' =
      if (name', position') = (name, position) then pair.1.record
      else block.record? name' position' := by
  show ((block.rosters.insert name (roster.setInstance position pair.1)).get? name').bind _ = _
  rw [SortedMap.get?_insert]
  by_cases hn : name' = name
  · subst hn
    rw [if_pos rfl]
    show ((roster.setInstance position pair.1).instance? position').bind _ = _
    rw [Roster.instance?_setInstance hi]
    by_cases hp : position' = position
    · rw [if_pos hp, if_pos (by rw [hp])]
      rfl
    · rw [if_neg hp, if_neg fun he => hp (congrArg Prod.snd he)]
      unfold record?
      rw [hr]
      rfl
  · rw [if_neg hn, if_neg fun he => hn (congrArg Prod.fst he)]
    rfl

/-! ## Writing for one pair -/

section

variable [RecordStore σ]

/-- A change of a saved instance that succeeds replaces its record, and no other. -/
theorem revise_ok {name : String} {position : Nat} {changes : AttributeMap} {record : Record}
    (hr : block.record? name position = some record)
    (h : revise name position changes block = .ok () left) :
    ∃ found, RecordStore.replace record (record.attributes.overlay changes) block.store =
        .ok found left.store ∧
      ∀ name' position', left.record? name' position' =
        if (name', position') = (name, position) then some found
        else block.record? name' position' := by
  rw [revise_eq] at h
  unfold record? Roster.record? at hr
  cases hroster : block.rosters.get? name with
  | none =>
    rw [hroster] at hr
    cases hr
  | some roster =>
    rw [hroster] at h hr
    dsimp only [Option.bind_some] at h hr
    cases hi : roster.instance? position with
    | none =>
      rw [hi] at hr
      cases hr
    | some item =>
      rw [hi] at h hr
      dsimp only [Option.bind_some] at h hr
      rw [Instance.revise_of_some changes block.store hr] at h
      cases hs : RecordStore.replace record (record.attributes.overlay changes) block.store with
      | error error store =>
        rw [hs] at h
        cases h
      | ok found store =>
        rw [hs] at h
        cases h
        exact ⟨found, rfl, record?_withInstance hroster hi _⟩

theorem giveKey_ok {giver holder : String × Nat} {field : String} {given record : Record}
    (hg : block.record? giver.1 giver.2 = some given)
    (hh : block.record? holder.1 holder.2 = some record)
    (h : giveKey link giver holder field block = .ok () left) :
    ∃ found, RecordStore.replace record (record.attributes.insert field (.int given.id))
        block.store = .ok found left.store ∧
      ∀ name position, left.record? name position =
        if (name, position) = holder then some found else block.record? name position := by
  have hid : block.recordId? giver.1 giver.2 = some given.id := by
    rw [recordId?_eq, hg]
    rfl
  unfold giveKey at h
  rw [bind_of_ok (linkedId_of_some hid link)] at h
  have hr := revise_ok hh h
  rwa [SortedMap.overlay_insert] at hr

theorem join_ok {owner other : String × Nat} {through ownerKey otherKey : String}
    {ownerRecord otherRecord : Record}
    (ho : block.record? owner.1 owner.2 = some ownerRecord)
    (ht : block.record? other.1 other.2 = some otherRecord)
    (h : join link owner other through ownerKey otherKey block = .ok () left) :
    left.record? = block.record? ∧ ∃ row, RecordStore.insert through
      (((∅ : AttributeMap).insert ownerKey (.int ownerRecord.id)).insert otherKey
        (.int otherRecord.id)) block.store = .ok row left.store := by
  have hid : block.recordId? owner.1 owner.2 = some ownerRecord.id := by
    rw [recordId?_eq, ho]
    rfl
  have hid' : block.recordId? other.1 other.2 = some otherRecord.id := by
    rw [recordId?_eq, ht]
    rfl
  unfold join at h
  rw [bind_of_ok (linkedId_of_some hid link), bind_of_ok (linkedId_of_some hid' link)] at h
  unfold insertRecord at h
  cases hi : RecordStore.insert through
      (((∅ : AttributeMap).insert ownerKey (.int ownerRecord.id)).insert otherKey
        (.int otherRecord.id)) block.store with
  | error error store =>
    rw [hi] at h
    cases h
  | ok row store =>
    rw [hi] at h
    cases h
    exact ⟨rfl, row, rfl⟩

end

/-! ## Writing for all pairs -/

variable {resolution : Resolution} {giver holder : Nat × Nat → String × Nat} {field : String}
  {pairs : List (Nat × Nat)}

/-- Every holder among the pairs has the key of its giver, and all records have the keys that they
had. -/
structure Given (giver holder : Nat × Nat → String × Nat) (field : String)
    (pairs : List (Nat × Nat)) (block left : Block σ) : Prop where
  keys : ∀ name position, (left.record? name position).map Record.key =
    (block.record? name position).map Record.key
  others : ∀ name position, (name, position) ∉ pairs.map holder →
    left.record? name position = block.record? name position
  given : ∀ pair ∈ pairs, ∃ given record,
    left.record? (giver pair).1 (giver pair).2 = some given ∧
      left.record? (holder pair).1 (holder pair).2 = some record ∧
      record.attributes.get? field = some (.int given.id)

theorem Given.isSome (h : Given giver holder field pairs block left) {name : String}
    {position : Nat} (hr : (block.record? name position).isSome = true) :
    (left.record? name position).isSome = true := by
  have hk := congrArg Option.isSome (h.keys name position)
  rwa [Option.isSome_map, Option.isSome_map, hr] at hk

theorem Given.cons {middle : Block σ} {pair : Nat × Nat}
    (h : Given giver holder field [pair] block middle)
    (h' : Given giver holder field pairs middle left) (hp : holder pair ∉ pairs.map holder) :
    Given giver holder field (pair :: pairs) block left := by
  refine ⟨fun name position => (h'.keys name position).trans (h.keys name position),
    fun name position hn => ?_, fun pair' hm => ?_⟩
  · rw [List.map_cons, List.mem_cons, not_or] at hn
    rw [h'.others name position hn.2]
    apply h.others
    simpa using hn.1
  · rcases List.mem_cons.mp hm with rfl | hm
    · obtain ⟨given, record, hg, hh, hf⟩ := h.given pair' List.mem_cons_self
      -- The later pairs are for other holders, and they leave the key of the giver.
      have hgiver := h'.keys (giver pair').1 (giver pair').2
      rw [hg, Option.map_some, Option.map_eq_some_iff] at hgiver
      obtain ⟨given', hg', he⟩ := hgiver
      refine ⟨given', record, hg', ?_, ?_⟩
      · rw [h'.others _ _ hp]
        exact hh
      · rw [hf, show given'.id = given.id from congrArg Prod.snd he]
    · exact h'.given pair' hm

variable [RecordStore σ] [DatabaseBacked σ]

theorem given_of_giveKey {pair : Nat × Nat} {given record : Record}
    (hn : (database block.store).Numbered)
    (hg : block.record? (giver pair).1 (giver pair).2 = some given)
    (hh : block.record? (holder pair).1 (holder pair).2 = some record)
    (h : giveKey link (giver pair) (holder pair) field block = .ok () left) :
    (database left.store).Numbered ∧ Given giver holder field [pair] block left := by
  obtain ⟨found, hs, hleft⟩ := giveKey_ok hg hh h
  have hd := replace_ok hs
  have hk := hn.replaced_key hd
  have hkeys : ∀ name position, (left.record? name position).map Record.key =
      (block.record? name position).map Record.key := by
    intro name position
    rw [hleft]
    split
    · rename_i he
      rw [← he] at hh
      rw [hh]
      exact congrArg some (Prod.ext hk.1 hk.2)
    · rfl
  refine ⟨hn.replace hd, hkeys, fun name position hp => ?_, fun pair' hp => ?_⟩
  · rw [hleft, if_neg]
    simpa using hp
  · rw [List.mem_singleton.mp hp]
    -- The giver may be the holder, whose record is another one now.
    have hgiver := hkeys (giver pair).1 (giver pair).2
    rw [hg, Option.map_some, Option.map_eq_some_iff] at hgiver
    obtain ⟨given', hg', he⟩ := hgiver
    obtain ⟨-, i, old, -, -, hf, -⟩ := Database.replace_eq_ok hd
    refine ⟨given', found, hg', by rw [hleft, if_pos rfl], ?_⟩
    rw [hf, show given'.id = given.id from congrArg Prod.snd he]
    exact SortedMap.get?_insert_self ..

theorem linkPairs_given (giver holder : Nat × Nat → String × Nat)
    (hw : ∀ pair, linkPair link resolution pair =
      giveKey (σ := σ) link (giver pair) (holder pair) field)
    (hn : (database block.store).Numbered) (hp : (pairs.map holder).Nodup)
    (hs : ∀ pair ∈ pairs, (block.record? (giver pair).1 (giver pair).2).isSome = true ∧
      (block.record? (holder pair).1 (holder pair).2).isSome = true)
    (h : linkPairs link resolution pairs block = .ok () left) :
    Given giver holder field pairs block left := by
  induction pairs generalizing block with
  | nil =>
    cases h
    exact ⟨fun _ _ => rfl, fun _ _ _ => rfl, fun _ hm => (List.not_mem_nil hm).elim⟩
  | cons pair rest ih =>
    obtain ⟨_, middle, hfirst, hrest⟩ := bind_eq_ok_iff.mp h
    rw [hw] at hfirst
    obtain ⟨hg, hh⟩ := hs pair List.mem_cons_self
    obtain ⟨given, hg⟩ := Option.isSome_iff_exists.mp hg
    obtain ⟨record, hh⟩ := Option.isSome_iff_exists.mp hh
    obtain ⟨hn', hfirst⟩ := given_of_giveKey hn hg hh hfirst
    rw [List.map_cons, List.nodup_cons] at hp
    apply hfirst.cons (ih hn' hp.2 (fun pair hm => ?_) hrest) hp.1
    have hpair := hs pair (List.mem_cons_of_mem _ hm)
    exact ⟨hfirst.isSome hpair.1, hfirst.isSome hpair.2⟩

end Block

theorem Database.all_insert {db db' : Database} {model : String} {attributes : AttributeMap}
    {record : Record} (h : Database.insert model attributes db = .ok record db') :
    record.model = model ∧ record.attributes = attributes ∧
      ∀ model', db'.all model' =
        if model' = model then db.all model ++ [record] else db.all model' := by
  obtain ⟨-, rfl, rfl⟩ := Database.insert_eq_ok_iff.mp h
  refine ⟨rfl, rfl, fun model' => ?_⟩
  unfold Database.all
  rw [Database.table_with_insert]
  split <;> rfl

theorem Database.mem_all_insert {db db' : Database} {model : String} {attributes : AttributeMap}
    {record : Record} (h : Database.insert model attributes db = .ok record db') :
    (record.attributes = attributes ∧ record ∈ db'.all model) ∧
      ∀ model' row, row ∈ db.all model' → row ∈ db'.all model' := by
  obtain ⟨-, ha, hall⟩ := all_insert h
  refine ⟨⟨ha, ?_⟩, fun model' row hr => ?_⟩
  · rw [hall, if_pos rfl]
    exact List.mem_append_right _ (List.mem_singleton_self record)
  · rw [hall]
    split
    · rename_i hm
      exact List.mem_append_left _ (hm ▸ hr)
    · exact hr

namespace Block

variable {σ : Type} [RecordStore σ] [DatabaseBacked σ] {block left : Block σ} {link : Link}
  {resolution : Resolution} {owner other : Nat × Nat → String × Nat}
  {through ownerKey otherKey : String} {pairs : List (Nat × Nat)}

theorem linkPairs_joined
    (hw : ∀ pair, linkPair link resolution pair =
      join (σ := σ) link (owner pair) (other pair) through ownerKey otherKey)
    (hs : ∀ pair ∈ pairs, (block.record? (owner pair).1 (owner pair).2).isSome = true ∧
      (block.record? (other pair).1 (other pair).2).isSome = true)
    (h : linkPairs link resolution pairs block = .ok () left) :
    left.record? = block.record? ∧
      (∀ model row, row ∈ (database block.store).all model →
        row ∈ (database left.store).all model) ∧
      ∀ pair ∈ pairs, ∃ ownerRecord otherRecord row,
        block.record? (owner pair).1 (owner pair).2 = some ownerRecord ∧
        block.record? (other pair).1 (other pair).2 = some otherRecord ∧
        row ∈ (database left.store).all through ∧
        row.attributes = ((∅ : AttributeMap).insert ownerKey (.int ownerRecord.id)).insert otherKey
          (.int otherRecord.id) := by
  induction pairs generalizing block with
  | nil =>
    cases h
    exact ⟨rfl, fun _ _ hr => hr, fun _ hm => (List.not_mem_nil hm).elim⟩
  | cons pair rest ih =>
    obtain ⟨_, middle, hfirst, hrest⟩ := bind_eq_ok_iff.mp h
    rw [hw] at hfirst
    obtain ⟨ho, ht⟩ := hs pair List.mem_cons_self
    obtain ⟨ownerRecord, ho⟩ := Option.isSome_iff_exists.mp ho
    obtain ⟨otherRecord, ht⟩ := Option.isSome_iff_exists.mp ht
    obtain ⟨hm, row, hi⟩ := join_ok ho ht hfirst
    obtain ⟨⟨ha, hrow⟩, hkeep⟩ := Database.mem_all_insert (insert_ok hi)
    have hs' : ∀ pair ∈ rest, (middle.record? (owner pair).1 (owner pair).2).isSome = true ∧
        (middle.record? (other pair).1 (other pair).2).isSome = true := by
      rw [hm]
      exact fun pair hp => hs pair (List.mem_cons_of_mem _ hp)
    obtain ⟨hleft, hall, hrows⟩ := ih hs' hrest
    rw [hm] at hleft hrows
    refine ⟨hleft, fun model row hr => hall _ _ (hkeep _ _ hr), fun pair' hp => ?_⟩
    rcases List.mem_cons.mp hp with rfl | hp
    · exact ⟨ownerRecord, otherRecord, row, ho, ht, hall _ _ hrow, ha⟩
    · exact hrows pair' hp

end Block

end Fixtures
