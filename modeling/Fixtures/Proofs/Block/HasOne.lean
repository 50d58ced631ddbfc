import Fixtures.Proofs.Block.Relinking
import Fixtures.Proofs.Store.HeldKeys
import Mathlib.Data.List.Nodup

/-!
# Links to at most one record

An association to one record is read as if a key had one holder at most, and written like one to
many.  So a link along it keeps to one holder for each key only if the keys that it gives are apart
(`Block.GivenApart`): no two rows are given the same one, and none of them is held already by a row
that keeps it.  If they are, the association leads to every holder of a key, and if they are not,
some holder is out of reach (`Block.link_heldOnce`).
-/

namespace Fixtures

namespace Block

/-! ## Rows after updates -/

section

variable {writes : List (Record × AttributeMap)} {db later : Database} {model : String}
  {row : Record}

theorem Accepts.numbered (h : Accepts writes db later) (hn : db.Numbered) : later.Numbered := by
  induction h with
  | nil => exact hn
  | cons hreplace _ ih => exact ih (hn.replace hreplace)

/-- After updates a row is one that an update has left, or an old one that no update was for. -/
theorem Accepts.mem_all (h : Accepts writes db later) (hn : db.Numbered)
    (hr : row ∈ later.all model) :
    (∃ write ∈ writes, row = { write.1 with attributes := write.2 } ∧ model = write.1.model) ∨
      row ∈ db.all model ∧ ∀ write ∈ writes, write.1.key ≠ (model, row.id) := by
  induction h with
  | nil => exact Or.inr ⟨hr, nofun⟩
  | @cons record found attributes db taken later writes hreplace _ ih =>
    have hfound := hn.replaced_eq hreplace
    obtain ⟨-, -, -, -, htaken⟩ := hn.replace_eq_ok_iff.mp hreplace
    rcases ih (hn.replace hreplace) hr with ⟨write, hm, hrow⟩ | ⟨hold, hlater⟩
    · exact Or.inl ⟨write, List.mem_cons_of_mem _ hm, hrow⟩
    · rw [htaken] at hold
      rcases Database.mem_all_putRow hold with ⟨rfl, hmodel⟩ | ⟨hold, hkey⟩
      · rw [hfound] at hmodel
        exact Or.inl ⟨_, List.mem_cons_self, hfound, hmodel⟩
      · refine Or.inr ⟨hold, fun write hm => ?_⟩
        rcases List.mem_cons.mp hm with rfl | hm
        · rw [hfound] at hkey
          exact Ne.symm hkey
        · exact hlater write hm

/-- A row that no update was for is still there. -/
theorem Accepts.mem_all_of_ne (h : Accepts writes db later) (hn : db.Numbered)
    (hr : row ∈ db.all model) (hk : ∀ write ∈ writes, write.1.key ≠ (model, row.id)) :
    row ∈ later.all model := by
  induction h with
  | nil => exact hr
  | @cons record found attributes db taken later writes hreplace _ ih =>
    have hfound := hn.replaced_eq hreplace
    obtain ⟨-, -, -, -, htaken⟩ := hn.replace_eq_ok_iff.mp hreplace
    apply ih (hn.replace hreplace) _ fun write hm => hk write (List.mem_cons_of_mem _ hm)
    rw [htaken]
    apply Database.mem_all_putRow_of_ne hr
    rw [hfound]
    exact Ne.symm (hk _ List.mem_cons_self)

end

/-! ## Keys given apart -/

variable {σ : Type} {block left : Block σ} {giver holder : Nat × Nat → String × Nat}
  {field : String} {pairs : List (Nat × Nat)} {given : List (Record × Int)} {db later : Database}
  {model : String}

/-- The records of the holders, each with the key that it is given. -/
def keysGiven (giver holder : Nat × Nat → String × Nat) (pairs : List (Nat × Nat))
    (block : Block σ) : List (Record × Int) :=
  pairs.filterMap fun pair => do
    let id ← block.recordId? (giver pair).1 (giver pair).2
    let record ← block.record? (holder pair).1 (holder pair).2
    return (record, id)

/-- The update by which a record takes a key. -/
def keyWrite (field : String) (gift : Record × Int) : Record × AttributeMap :=
  (gift.1, gift.1.attributes.insert field (.int gift.2))

/-- The row of a record that has taken a key. -/
def rowGiven (field : String) (gift : Record × Int) : Record :=
  { gift.1 with attributes := gift.1.attributes.insert field (.int gift.2) }

theorem keyWrites_eq_map (giver holder : Nat × Nat → String × Nat) (field : String)
    (pairs : List (Nat × Nat)) (block : Block σ) :
    keyWrites giver holder field pairs block =
      (keysGiven giver holder pairs block).map (keyWrite field) := by
  unfold keyWrites keysGiven
  rw [List.map_filterMap]
  congr 1
  funext pair
  cases block.recordId? (giver pair).1 (giver pair).2 with
  | none => rfl
  | some id => cases block.record? (holder pair).1 (holder pair).2 <;> rfl

/-- No two rows of the model are given the same key, and a row that holds one of the keys already
is given a key itself. -/
structure GivenApart (given : List (Record × Int)) (db : Database) (model field : String) :
    Prop where
  distinct : ((given.filter fun gift => gift.1.model = model).map (·.2)).Nodup
  free : ∀ row ∈ db.all model, ∀ gift ∈ given, gift.1.model = model →
    row.field? field = some (.int gift.2) → ∃ other ∈ given, other.1.key = (model, row.id)

instance (given : List (Record × Int)) (db : Database) (model field : String) :
    Decidable (GivenApart given db model field) :=
  decidable_of_iff
    (((given.filter fun gift => gift.1.model = model).map (·.2)).Nodup ∧
      ∀ row ∈ db.all model, ∀ gift ∈ given, gift.1.model = model →
        row.field? field = some (.int gift.2) → ∃ other ∈ given, other.1.key = (model, row.id))
    ⟨fun h => ⟨h.1, h.2⟩, fun h => ⟨h.distinct, h.free⟩⟩

theorem field?_rowGiven (hf : field ≠ "id") (gift : Record × Int) :
    (rowGiven field gift).field? field = some (.int gift.2) := by
  unfold Record.field?
  rw [if_neg hf]
  exact SortedMap.get?_insert_self ..

/-- Of two gifts of the same key apart there is only one. -/
theorem GivenApart.eq_of_id (h : GivenApart given db model field) {gift gift' : Record × Int}
    (hg : gift ∈ given) (hm : gift.1.model = model) (hg' : gift' ∈ given)
    (hm' : gift'.1.model = model) (hid : gift.2 = gift'.2) : gift = gift' := by
  have hmem : ∀ {gift}, gift ∈ given → gift.1.model = model →
      gift ∈ given.filter fun gift => gift.1.model = model := fun hg hm =>
    List.mem_filter.mpr ⟨hg, decide_eq_true hm⟩
  exact List.inj_on_of_nodup_map h.distinct (hmem hg hm) (hmem hg' hm') hid

theorem GivenApart.heldOnce (h : GivenApart given db model field) (hn : db.Numbered)
    (hw : Accepts (given.map (keyWrite field)) db later)
    (ho : db.HeldOnce model field) : later.HeldOnce model field := by
  have hn' := hw.numbered hn
  by_cases hf : field = "id"
  · rw [hf]
    exact hn'.heldOnce_id
  rw [hn'.heldOnce_iff]
  -- A row has just taken the key, or held it before and still does.
  have hrow : ∀ row ∈ later.all model, ∀ id, row.field? field = some (.int id) →
      (∃ gift ∈ given, gift.1.model = model ∧ gift.2 = id ∧ row = rowGiven field gift) ∨
      row ∈ db.all model ∧ ∀ gift ∈ given, gift.1.key ≠ (model, row.id) := by
    intro row hr id hid
    rcases hw.mem_all hn hr with ⟨write, hm, rfl, hmodel⟩ | ⟨hr, hk⟩
    · obtain ⟨gift, hg, rfl⟩ := List.mem_map.mp hm
      change (rowGiven field gift).field? field = _ at hid
      rw [field?_rowGiven hf, Option.some.injEq, Value.int.injEq] at hid
      exact Or.inl ⟨gift, hg, hmodel.symm, hid, rfl⟩
    · exact Or.inr ⟨hr, fun gift hg => hk _ (List.mem_map_of_mem hg)⟩
  intro row hr row' hr' id hid hid'
  rcases hrow row hr id hid with ⟨gift, hg, hm, rfl, rfl⟩ | ⟨hold, hk⟩
  · rcases hrow row' hr' _ hid' with ⟨gift', hg', hm', heq, rfl⟩ | ⟨hold', hk'⟩
    · rw [h.eq_of_id hg hm hg' hm' heq.symm]
    · obtain ⟨other, ho, hkey⟩ := h.free row' hold' gift hg hm hid'
      exact absurd hkey (hk' other ho)
  · rcases hrow row' hr' _ hid' with ⟨gift', hg', hm', rfl, rfl⟩ | ⟨hold', -⟩
    · obtain ⟨other, ho, hkey⟩ := h.free row hold gift' hg' hm' hid
      exact absurd hkey (hk other ho)
    · exact hn.heldOnce_iff.mp ho row hold row' hold' id hid hid'

/-- Where every record is given one key, keys that are not given apart get two rows to hold one. -/
theorem givenApart_of_heldOnce (hf : field ≠ "id") (hn : db.Numbered)
    (hw : Accepts (given.map (keyWrite field)) db later)
    (hk : (given.map (·.1.key)).Nodup) (ho : later.HeldOnce model field) :
    GivenApart given db model field := by
  have hn' := hw.numbered hn
  have honce := hn'.heldOnce_iff.mp ho
  have htaken : ∀ gift ∈ given, gift.1.model = model →
      rowGiven field gift ∈ later.all model := by
    intro gift hg hm
    have hkeys : ((given.map (keyWrite field)).map fun write => write.1.key).Nodup := by
      rwa [List.map_map]
    rw [← hm]
    exact (hw.all_settled hn hkeys _ (List.mem_map_of_mem hg)).mem hn'
  refine ⟨?_, fun row hr gift hg hm hid => ?_⟩
  · rw [List.nodup_iff_pairwise_ne, List.pairwise_map] at hk ⊢
    refine (hk.filter _).imp_of_mem fun {gift gift'} hg hg' hne heq => hne ?_
    obtain ⟨hg, hm⟩ := List.mem_filter.mp hg
    obtain ⟨hg', hm'⟩ := List.mem_filter.mp hg'
    have hsame := honce _ (htaken gift hg (of_decide_eq_true hm)) _
      (htaken gift' hg' (of_decide_eq_true hm')) gift.2 (field?_rowGiven hf gift)
      (heq ▸ field?_rowGiven hf gift')
    exact (congrArg Record.key hsame : (rowGiven field gift).key = (rowGiven field gift').key)
  · by_contra hnone
    have hstays : row ∈ later.all model := by
      apply hw.mem_all_of_ne hn hr
      intro write hmw hkey
      obtain ⟨other, hother, rfl⟩ := List.mem_map.mp hmw
      exact hnone ⟨other, hother, hkey⟩
    have hsame := honce row hstays _ (htaken gift hg hm) gift.2 hid (field?_rowGiven hf gift)
    exact hnone ⟨gift, hg, by rw [hsame, ← hm]; rfl⟩

/-! ## Links -/

/-- The records to which a link gives the key of their partner, each with this key. -/
def linkGiven (link : Link) (resolution : Resolution) (block : Block σ) : List (Record × Int) :=
  keysGiven (fun pair => resolution.owner.of (ends link pair))
    (fun pair => resolution.owner.other.of (ends link pair)) (resolution.written link.pairs) block

theorem Writes.accepts_given {link : Link} {resolution : Resolution} {block left : Block Database}
    (h : Writes link resolution (resolution.written link.pairs) block left)
    (hk : resolution.association.kind = .hasOne) :
    Accepts ((linkGiven link resolution block).map (keyWrite resolution.association.foreignKey))
      block.store left.store := by
  unfold Writes at h
  rw [hk] at h
  have hs := h.store
  rwa [keyWrites_eq_map] at hs

/-- A link along an association to one record leaves every key with one row at most if it gives the
keys apart, and then the association leads to all rows that hold the key of its owner. If it does
not give them apart, some key gets two rows. -/
theorem link_heldOnce (workshop : Workshop) (store : Database) (attempts : List Attempt)
    (link : Link) {written : Nat} {left : Block Database} (hr : store.Reachable)
    (h : Block.link link (after (performAll attempts) (start workshop store)) = .ok written left) :
    let block := after (performAll attempts) (start workshop store)
    ∀ source target resolution,
      block.workshop.catalog.factory? link.source.factory = some source →
      block.workshop.catalog.factory? link.target.factory = some target →
      block.workshop.catalog.resolveLink source target link.via = .ok resolution →
      resolution.association.kind = .hasOne →
      let model := resolution.association.targetModel
      let key := resolution.association.foreignKey
      block.store.HeldOnce model key →
      (GivenApart (linkGiven link resolution block) block.store model key →
        left.store.HeldOnce model key ∧ ∀ owner name,
          block.workshop.catalog.association? owner.model name = some resolution.association →
          ending (block.workshop.catalog.related owner name left.store) =
            .ok (left.store.holders model key owner.id)) ∧
      (workshop.catalog.KeepsKeys → (∀ attempt ∈ attempts, attempt.statement.KeepsKeys) →
        key ≠ "id" → left.store.HeldOnce model key →
          GivenApart (linkGiven link resolution block) block.store model key) := by
  intro block source target resolution hsource htarget hresolve hkind model key honce
  have hn : block.store.Numbered :=
    numbered_performAll attempts (start workshop store) hr.numbered
  obtain ⟨-, hpairs⟩ := (link_eq_ok_iff hsource htarget hresolve).mp h
  have hwrites := writes_of_linkPairs hn (performAll_named workshop store attempts) hpairs
  have haccepts := hwrites.accepts_given hkind
  refine ⟨fun hapart => ?_, fun hkeys hstatements hid hafter => ?_⟩
  · have hafter := hapart.heldOnce hn haccepts honce
    refine ⟨hafter, fun owner name hname => ?_⟩
    rw [Catalog.ending_related hname, Catalog.follow_of_hasOne hkind, Database.select_int]
    exact congrArg Except.ok (hafter.head?_holders (haccepts.numbered hn) owner.id)
  · have hsound : block.Sound := sound_performAll hkeys hr hstatements
    apply givenApart_of_heldOnce hid hn haccepts _ hafter
    have hside := Resolution.holder?_of_has (Or.inl hkind)
    have hnodup : ((keyWrites (fun pair => resolution.owner.of (ends link pair))
        (fun pair => resolution.owner.other.of (ends link pair)) key
        (resolution.written link.pairs) block).map fun write => write.1.key).Nodup :=
      nodup_keyWrites hsound.agrees (nodup_written link hside)
    rw [keyWrites_eq_map, List.map_map] at hnodup
    exact hnodup

/-- Two users and two profiles, linked one to one. -/
theorem link_heldOnce_of_pairs :
    let user : Factory := { name := "user", model := "User" }
    let profile : Factory := { name := "profile", model := "Profile" }
    let own : Association :=
      { name := "profile", kind := .hasOne, targetModel := "Profile", foreignKey := "user_id" }
    let workshop : Workshop :=
      { catalog := (((∅ : Catalog).register user).register profile).registerSchema
          (({ model := "User" } : Schema).add own) }
    let attempts : List Attempt :=
      [⟨.declare "users" (.count 2), false⟩, ⟨.declare "profiles" (.count 2), false⟩]
    let block := after (performAll attempts) (start workshop ({} : Database))
    let link : Link :=
      { source := ⟨"user", .collection, [0, 1]⟩, target := ⟨"profile", .collection, [0, 1]⟩ }
    let given := linkGiven link { owner := .source, association := own } block
    block.store.HeldOnce "Profile" "user_id" ∧ GivenApart given block.store "Profile" "user_id" ∧
      Ends (Block.link link block)
        (fun _ left => left.store.HeldOnce "Profile" "user_id" ∧
          ending (block.workshop.catalog.related ⟨"User", 2, ∅⟩ "profile" left.store) =
            .ok (left.store.holders "Profile" "user_id" 2))
        (fun _ _ => False) := by
  intro user profile own workshop attempts block link given
  have hc : block.workshop.catalog = workshop.catalog := performAll_catalog (by decide +kernel)
  have hprofile : workshop.catalog.factory? "profile" = some profile :=
    SortedMap.get?_insert_self ..
  have huser : workshop.catalog.factory? "user" = some user :=
    (SortedMap.get?_insert_of_ne _ profile (by decide)).trans (SortedMap.get?_insert_self ..)
  have hresolve : block.workshop.catalog.resolveLink user profile none =
      .ok { owner := .source, association := own } := eq_ok_of_toOption (by decide +kernel)
  have hname : block.workshop.catalog.association? "User" "profile" = some own := by decide +kernel
  have honce : block.store.HeldOnce "Profile" "user_id" := by decide +kernel
  have hapart : GivenApart given block.store "Profile" "user_id" := by decide +kernel
  have hends : Ends (Block.link link block) (fun _ _ => True) (fun _ _ => False) := by
    decide +kernel
  refine ⟨honce, hapart, ?_⟩
  cases hl : Block.link link block with
  | error error left =>
    rw [hl] at hends
    exact hends
  | ok written left =>
    obtain ⟨hafter, hrelated⟩ := (link_heldOnce workshop {} attempts link Database.Reachable.start
      hl user profile { owner := .source, association := own } (hc ▸ huser) (hc ▸ hprofile)
      hresolve rfl honce).1 hapart
    exact ⟨hafter, hrelated ⟨"User", 2, ∅⟩ "profile" hname⟩

/-- One user linked to two profiles. Both rows get the key, and the association leads to the first
of them only. -/
theorem link_shares_key :
    let user : Factory := { name := "user", model := "User" }
    let profile : Factory := { name := "profile", model := "Profile" }
    let own : Association :=
      { name := "profile", kind := .hasOne, targetModel := "Profile", foreignKey := "user_id" }
    let workshop : Workshop :=
      { catalog := (((∅ : Catalog).register user).register profile).registerSchema
          (({ model := "User" } : Schema).add own) }
    let attempts : List Attempt :=
      [⟨.declare "user" .none, false⟩, ⟨.declare "profiles" (.count 2), false⟩]
    let block := after (performAll attempts) (start workshop ({} : Database))
    let link : Link :=
      { source := ⟨"user", .singleton, [0]⟩, target := ⟨"profile", .collection, [0, 1]⟩ }
    block.store.HeldOnce "Profile" "user_id" ∧
      block.workshop.catalog.resolveLink user profile link.via =
        .ok { owner := .source, association := own } ∧
      Ends (Block.link link block)
        (fun written left => written = 2 ∧ ¬left.store.HeldOnce "Profile" "user_id" ∧
          (left.store.holders "Profile" "user_id" 1).map (·.id) = [1, 2] ∧
          (ending (block.workshop.catalog.related ⟨"User", 1, ∅⟩ "profile" left.store)).toOption.map
            (List.map (·.id)) = some [1])
        (fun _ _ => False) := by
  intro user profile own workshop attempts block link
  exact ⟨by decide +kernel, eq_ok_of_toOption (by decide +kernel), by decide +kernel⟩

end Block

end Fixtures
