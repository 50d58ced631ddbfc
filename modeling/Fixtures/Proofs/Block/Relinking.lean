import Fixtures.Proofs.Block.Agreement
import Fixtures.Proofs.Block.Effect
import Fixtures.Proofs.History.Lasting
import Fixtures.Proofs.Store.Replacing

/-!
# Linking again

A link that has succeeded can be made again.  Where one side keeps the key, every instance there has
the key that it is given, and its row has it too and is settled: writing it again goes through and
changes nothing, since the other rows that were written in the meantime were checked against it.
Where a third model keeps the keys, the rows that join the pairs are there once more
(`Block.link_again`).
-/

namespace Fixtures

namespace Instance

variable {item : Instance} {changes : AttributeMap} {db : Database}

/-- The instance has the changes already, and the row of its record is as settled as the record. -/
structure Has (item : Instance) (changes : AttributeMap) (db : Database) : Prop where
  attributes : item.attributes.overlay changes = item.attributes
  record : ∀ record, item.record = some record →
    record.attributes.overlay changes = record.attributes ∧ Database.Settled record db

theorem Has.revise (h : item.Has changes db) :
    Instance.revise changes (item, db) = .ok () (item, db) := by
  have hrevised : item.revised changes = item := by
    unfold revised
    rw [h.attributes]
  cases hr : item.record with
  | none => rw [revise_of_none _ _ hr, hrevised]
  | some record =>
    obtain ⟨hattributes, hsettled⟩ := h.record record hr
    have hreplace : RecordStore.replace record record.attributes db = .ok record db := hsettled
    rw [revise_of_some _ _ hr, hattributes, hreplace, hrevised]
    dsimp only
    rw [← hr]

end Instance

namespace Block

variable {block left : Block Database} {link : Link} {resolution : Resolution}
  {giver holder : Nat × Nat → String × Nat} {field : String} {pairs : List (Nat × Nat)}

/-! ## Settled after updates -/

/-- The updates of other records were checked against the settled one. -/
theorem Accepts.settled {writes : List (Record × AttributeMap)} {db later : Database}
    {record : Record} (h : Accepts writes db later) (hn : db.Numbered)
    (hs : Database.Settled record db) (hk : ∀ write ∈ writes, record.key ≠ write.1.key) :
    Database.Settled record later := by
  induction h with
  | nil => exact hs
  | cons hr _ ih =>
    exact ih (hn.replace hr) (hs.replace hn hr (hk _ List.mem_cons_self))
      fun write hm => hk write (List.mem_cons_of_mem _ hm)

theorem Accepts.all_settled {writes : List (Record × AttributeMap)} {db later : Database}
    (h : Accepts writes db later) (hn : db.Numbered)
    (hk : (writes.map fun write => write.1.key).Nodup) :
    ∀ write ∈ writes, Database.Settled { write.1 with attributes := write.2 } later := by
  induction h with
  | nil => exact fun _ hm => (List.not_mem_nil hm).elim
  | @cons record found attributes db taken later writes hr hrest ih =>
    rw [List.map_cons, List.nodup_cons] at hk
    intro write hm
    rcases List.mem_cons.mp hm with rfl | hm
    · have hfound : found = { record with attributes } := hn.replaced_eq hr
      rw [← hfound]
      apply hrest.settled (hn.replace hr) (hn.settled_of_replace hr)
      intro write hm he
      rw [hfound] at he
      exact hk.1 (List.mem_map.mpr ⟨write, hm, he.symm⟩)
    · exact ih (hn.replace hr) hk.2 write hm

/-- No two holders have records with one key, so no row is updated twice. -/
theorem nodup_keyWrites (ha : Agrees block.store block.record?) (hp : (pairs.map holder).Nodup) :
    ((keyWrites giver holder field pairs block).map fun write => write.1.key).Nodup := by
  rw [List.nodup_iff_pairwise_ne, List.pairwise_map] at hp ⊢
  unfold keyWrites
  rw [List.pairwise_filterMap]
  apply hp.imp
  intro pair pair' hne write hw write' hw'
  simp only [Option.bind_eq_bind, Option.bind_eq_some_iff] at hw hw'
  obtain ⟨id, -, record, hr, hw⟩ := hw
  obtain ⟨id', -, record', hr', hw'⟩ := hw'
  cases hw
  cases hw'
  exact ha.separate _ _ _ _ record record' hr hr' hne

/-! ## Giving keys again -/

theorem withInstance_self {name : String} {roster : Roster} {position : Nat} {item : Instance}
    (hr : block.rosters.get? name = some roster) (hi : roster.instance? position = some item) :
    block.withInstance name roster position (item, block.store) = block := by
  unfold withInstance
  dsimp only
  rw [Roster.setInstance_self hi, SortedMap.insert_eq_self hr]

theorem revise_again {name : String} {position : Nat} {item : Instance} {changes : AttributeMap}
    (hi : block.instance? name position = some item) (h : item.Has changes block.store) :
    revise name position changes block = .ok () block := by
  obtain ⟨roster, hr, hi, hrevise⟩ := revise_of_instance changes hi
  rw [hrevise, h.revise]
  dsimp only
  rw [withInstance_self hr hi]

/-- Every holder has its key, and the row of its record is settled. -/
theorem GivesKeys.giveKey_again (h : GivesKeys giver holder field pairs block left)
    (hn : block.store.Numbered) (ha : Agrees block.store block.record?)
    (hp : (pairs.map holder).Nodup) (link : Link) {pair : Nat × Nat} (hm : pair ∈ pairs) :
    giveKey link (giver pair) (holder pair) field left = .ok () left := by
  obtain ⟨id, item, hg, hi, hl⟩ := h.given pair hm
  have hid : left.recordId? (giver pair).1 (giver pair).2 = some id :=
    (h.recordId? _ _).trans hg
  unfold giveKey
  rw [bind_of_ok (linkedId_of_some hid link)]
  apply revise_again hl
  refine ⟨SortedMap.insert_insert .., fun record hr => ?_⟩
  obtain ⟨old, ho, rfl⟩ := Option.map_eq_some_iff.mp hr
  refine ⟨SortedMap.insert_insert .., ?_⟩
  have hwrite : (old, old.attributes.insert field (.int id)) ∈
      keyWrites giver holder field pairs block := by
    have hold : block.record? (holder pair).1 (holder pair).2 = some old := by
      rw [record?_eq_instance?, hi]
      exact ho
    unfold keyWrites
    refine List.mem_filterMap.mpr ⟨pair, hm, ?_⟩
    rw [hg, hold]
    rfl
  exact h.store.all_settled hn (nodup_keyWrites ha hp) _ hwrite

theorem linkPairs_again (h : ∀ pair ∈ pairs, linkPair link resolution pair left = .ok () left) :
    linkPairs link resolution pairs left = .ok () left := by
  induction pairs with
  | nil => rfl
  | cons pair rest ih =>
    unfold linkPairs
    rw [bind_of_ok (h pair List.mem_cons_self)]
    exact ih fun later hm => h later (List.mem_cons_of_mem _ hm)

/-! ## Joining again -/

variable {last : Block Database} {owner other : Nat × Nat → String × Nat}
  {through ownerKey otherKey : String}

/-- The rows that a link has added to a model are there once more, with the attributes that they
have, and nothing else has changed. -/
structure JoinsAgain (through : String) (written : Nat) (block left last : Block Database) :
    Prop where
  workshop : last.workshop = left.workshop
  rosters : last.rosters = left.rosters
  rows : ∃ rows again, rows.length = written ∧
    left.store.all through = block.store.all through ++ rows ∧
      last.store.all through = left.store.all through ++ again ∧
        again.map (·.attributes) = rows.map (·.attributes)
  others : ∀ model, model ≠ through → last.store.table model = left.store.table model
  constraints : left.store.Alike last.store

/-- What rows say that join pairs depends on the pairs and the keys alone. -/
theorem AreJoined.attributes_eq {rows again : List Record}
    (h : AreJoined owner other through ownerKey otherKey block pairs rows)
    (h' : AreJoined owner other through ownerKey otherKey left pairs again)
    (hids : left.recordId? = block.recordId?) :
    again.map (·.attributes) = rows.map (·.attributes) := by
  unfold AreJoined at h h'
  induction h generalizing again with
  | nil =>
    cases h'
    rfl
  | cons hr _ ih =>
    cases h' with
    | cons hr' hrest =>
      obtain ⟨ownerId, otherId, ho, ht, -, ha⟩ := hr
      obtain ⟨ownerId', otherId', ho', ht', -, ha'⟩ := hr'
      rw [hids, ho] at ho'
      rw [hids, ht] at ht'
      cases ho'
      cases ht'
      rw [List.map_cons, List.map_cons, ih hrest, ha, ha']

theorem Joins.again (h : Joins owner other through ownerKey otherKey pairs block left)
    (h' : Joins owner other through ownerKey otherKey pairs left last)
    (hn : left.store.Numbered) (hn' : last.store.Numbered)
    (ha : left.store.Alike last.store) : JoinsAgain through pairs.length block left last := by
  obtain ⟨rows, hrows, hall⟩ := h.joined
  obtain ⟨again, hagain, hall'⟩ := h'.joined
  have hids : left.recordId? = block.recordId? := by
    unfold Block.recordId?
    rw [h.rosters]
  refine ⟨h'.workshop, h'.rosters, ⟨rows, again, hrows.length_eq.symm, hall, hall',
    hrows.attributes_eq hagain hids⟩, fun model hm => ?_, ha⟩
  exact hn'.table_eq hn (h'.others model hm)

/-! ## Links -/

theorem sound_link (h : block.Sound) (link : Link) : (after (Block.link link) block).Sound := by
  apply Moves.keeps (P := Sound) _ h
  exact (moves_link link).mono fun _ _ hstep hs => (Step.link hstep).sound hs

theorem alike_link (link : Link) (block : Block Database) :
    block.store.Alike (after (Block.link link) block).store := by
  have ha := alike_perform (.link link) block
  rwa [after_perform_link] at ha

theorem link_workshop (link : Link) (block : Block Database) :
    (after (Block.link link) block).workshop = block.workshop := by
  apply Moves.keeps (P := fun left : Block Database => left.workshop = block.workshop) _ rfl
  exact (moves_link link).mono fun _ _ hstep hs => hstep.workshop.trans hs

theorem link_eq_ok_iff {source target : Factory} {written : Nat}
    (hs : block.workshop.catalog.factory? link.source.factory = some source)
    (ht : block.workshop.catalog.factory? link.target.factory = some target)
    (hr : block.workshop.catalog.resolveLink source target link.via = .ok resolution) :
    Block.link link block = .ok written left ↔
      (resolution.written link.pairs).length = written ∧
        linkPairs link resolution (resolution.written link.pairs) block = .ok () left := by
  rw [link_eq, Catalog.factory_eq_ok_iff.mpr hs]
  dsimp only
  rw [Catalog.factory_eq_ok_iff.mpr ht]
  dsimp only
  rw [hr]
  dsimp only
  cases linkPairs link resolution (resolution.written link.pairs) block with
  | error error left' => simp
  | ok answer left' => simp

/-- What a link has written that went through. -/
theorem writes_of_linkPairs (hn : block.store.Numbered) (hnamed : block.Named)
    (h : linkPairs link resolution (resolution.written link.pairs) block = .ok () left) :
    Writes link resolution (resolution.written link.pairs) block left := by
  have hends := linkPairs_writes resolution link hn hnamed fun _ => nodup_written link
  rwa [h] at hends

theorem Writes.named (h : Writes link resolution pairs block left) (hn : block.Named) :
    left.Named := by
  unfold Writes at h
  dsimp only at h
  split at h
  · exact h.framed.named hn
  · exact h.framed.named hn
  · exact h.framed.named hn
  · unfold Named
    rw [h.rosters]
    exact hn

/-- Once the keys are given, giving them again changes nothing. -/
theorem GivesKeys.linkPairs_again (h : GivesKeys giver holder field pairs block left)
    (hs : block.Sound) (hp : (pairs.map holder).Nodup)
    (hw : ∀ pair, linkPair link resolution pair =
      giveKey (σ := Database) link (giver pair) (holder pair) field) :
    linkPairs link resolution pairs left = .ok () left := by
  apply Block.linkPairs_again
  intro pair hm
  rw [hw]
  exact h.giveKey_again hs.numbered hs.agrees hp link hm

theorem Writes.linkPairs_again {side : Side} (h : Writes link resolution pairs block left)
    (hs : block.Sound) (hside : resolution.holder? = some side)
    (hp : (pairs.map fun pair => side.of (ends link pair)).Nodup) :
    linkPairs link resolution pairs left = .ok () left := by
  unfold Writes at h
  cases hkind : resolution.association.kind with
  | belongsTo =>
    rw [hkind] at h
    rw [Resolution.holder?_of_belongsTo hkind] at hside
    cases hside
    exact h.linkPairs_again hs hp (linkPair_of_belongsTo hkind)
  | hasOne =>
    rw [hkind] at h
    rw [Resolution.holder?_of_has (Or.inl hkind)] at hside
    cases hside
    exact h.linkPairs_again hs hp (linkPair_of_has (Or.inl hkind))
  | hasMany =>
    rw [hkind] at h
    rw [Resolution.holder?_of_has (Or.inr hkind)] at hside
    cases hside
    exact h.linkPairs_again hs hp (linkPair_of_has (Or.inr hkind))
  | manyToMany =>
    unfold Resolution.holder? Association.keyOwner at hside
    rw [hkind] at hside
    cases hside

theorem Writes.joinsAgain (h : Writes link resolution pairs block left)
    (h' : Writes link resolution pairs left last)
    (hkind : resolution.association.kind = .manyToMany through ownerKey otherKey)
    (hn : left.store.Numbered) (hn' : last.store.Numbered) (ha : left.store.Alike last.store) :
    JoinsAgain through pairs.length block left last := by
  unfold Writes at h h'
  rw [hkind] at h h'
  exact h.again h' hn hn' ha

/-- A link that has succeeded succeeds again, with the same answer and nothing to change, if one
side keeps the key.  Where a third model keeps the keys, a link that succeeds again adds its rows
once more, and changes nothing else. -/
theorem link_again (workshop : Workshop) (store : Database) (attempts : List Attempt) (link : Link)
    {written : Nat} {left : Block Database} (hk : workshop.catalog.KeepsKeys)
    (hr : store.Reachable) (hs : ∀ attempt ∈ attempts, attempt.statement.KeepsKeys)
    (h : Block.link link (after (performAll attempts) (start workshop store)) = .ok written left) :
    let block := after (performAll attempts) (start workshop store)
    ∃ source target resolution,
      block.workshop.catalog.factory? link.source.factory = some source ∧
      block.workshop.catalog.factory? link.target.factory = some target ∧
      block.workshop.catalog.resolveLink source target link.via = .ok resolution ∧
      match resolution.association.kind with
      | .belongsTo | .hasOne | .hasMany => Block.link link left = .ok written left
      | .manyToMany through _ _ => ∀ again last, Block.link link left = .ok again last →
        again = written ∧ JoinsAgain through written block left last := by
  intro block
  have hsound : block.Sound := sound_performAll hk hr hs
  have hnamed : block.Named := performAll_named workshop store attempts
  change Block.link link block = .ok written left at h
  generalize block = block at h hsound hnamed ⊢
  obtain ⟨source, target, resolution, hsource, htarget, hresolve, hpairs⟩ := link_eq_ok h
  refine ⟨source, target, resolution, hsource, htarget, hresolve, ?_⟩
  obtain ⟨rfl, -⟩ := (link_eq_ok_iff hsource htarget hresolve).mp h
  have hwrites : Writes link resolution (resolution.written link.pairs) block left :=
    writes_of_linkPairs hsound.numbered hnamed hpairs
  -- Another link finds what the first one found.
  have hworkshop := link_workshop link block
  rw [after_of_ok h] at hworkshop
  rw [← hworkshop] at hsource htarget hresolve
  have hagain : ∀ {again : Nat} {last : Block Database}, Block.link link left = .ok again last ↔
      (resolution.written link.pairs).length = again ∧
        linkPairs link resolution (resolution.written link.pairs) left = .ok () last :=
    link_eq_ok_iff hsource htarget hresolve
  have hkeyed : ∀ {side : Side}, resolution.holder? = some side →
      Block.link link left = .ok (resolution.written link.pairs).length left := fun hside =>
    hagain.mpr ⟨rfl, hwrites.linkPairs_again hsound hside (nodup_written link hside)⟩
  cases hkind : resolution.association.kind with
  | belongsTo => exact hkeyed (Resolution.holder?_of_belongsTo hkind)
  | hasOne => exact hkeyed (Resolution.holder?_of_has (Or.inl hkind))
  | hasMany => exact hkeyed (Resolution.holder?_of_has (Or.inr hkind))
  | manyToMany through ownerKey otherKey =>
    intro again last hlink
    obtain ⟨rfl, hpairs'⟩ := hagain.mp hlink
    have hleft : left.Sound := by
      rw [← after_of_ok h]
      exact sound_link hsound link
    have hlast : last.Sound := by
      rw [← after_of_ok hlink]
      exact sound_link hleft link
    have halike : left.store.Alike last.store := by
      rw [← after_of_ok hlink]
      exact alike_link link left
    have hnamed' : left.Named := hwrites.named hnamed
    have hwrites' := writes_of_linkPairs hleft.numbered hnamed' hpairs'
    exact ⟨rfl, hwrites.joinsAgain hwrites' hkind hleft.numbered hlast.numbered halike⟩

/-- A post is given the key of its author again, and is tagged once more. -/
theorem link_again_of_post :
    let user : Factory := { name := "user", model := "User" }
    let post : Factory := { name := "post", model := "Post" }
    let tag : Factory := { name := "tag", model := "Tag" }
    let author : Association :=
      { name := "author", kind := .belongsTo, targetModel := "User", foreignKey := "userId" }
    let tags : Association :=
      { name := "tags", kind := .manyToMany "Tagging" "postId" "tagId", targetModel := "Tag"
        foreignKey := "postId" }
    let workshop : Workshop :=
      { catalog := ((((∅ : Catalog).register user).register post).register tag).registerSchema
          ((({ model := "Post" } : Schema).add author).add tags) }
    let store : Database := { unique := [("Post", "userId")] }
    let attempts : List Attempt :=
      [⟨.declare "post" .none, false⟩, ⟨.declare "users" (.count 2), false⟩,
        ⟨.declare "tag" .none, false⟩]
    let block := after (performAll attempts) (start workshop store)
    let toAuthor : Link :=
      { source := ⟨"post", .singleton, [0]⟩, target := ⟨"user", .collection, [0, 1]⟩ }
    let toTag : Link :=
      { source := ⟨"post", .singleton, [0]⟩, target := ⟨"tag", .singleton, [0]⟩ }
    Ends (Block.link toAuthor block)
      (fun written left => written = 1 ∧ Block.link toAuthor left = .ok written left)
      (fun _ _ => False) ∧
    Ends (Block.link toTag block)
      (fun written left => written = 1 ∧ Ends (Block.link toTag left)
        (fun again last => again = 1 ∧ JoinsAgain "Tagging" 1 block left last) fun _ _ => False)
      (fun _ _ => False) := by
  intro user post tag author tags workshop store attempts block toAuthor toTag
  have hplain : ∀ {factory : Factory}, factory.hooks.afterCreate = none → factory.KeepsKeys :=
    fun hn _ hh => by rw [hn] at hh; cases hh
  have hkeys : workshop.catalog.KeepsKeys :=
    ((Catalog.KeepsKeys.register (fun _ _ h => by cases h) (hplain rfl)).register
      (hplain rfl)).register (hplain rfl)
  have hreachable : store.Reachable := Database.Reachable.start.constrain [("Post", "userId")] []
  have hstatements : ∀ attempt ∈ attempts, attempt.statement.KeepsKeys := by
    intro attempt ha
    rw [List.mem_cons, List.mem_cons, List.mem_singleton] at ha
    rcases ha with rfl | rfl | rfl <;> trivial
  have hfound : block.workshop.catalog.factory? "post" = some post ∧
      block.workshop.catalog.factory? "user" = some user ∧
      block.workshop.catalog.factory? "tag" = some tag := by
    have hc : block.workshop.catalog = workshop.catalog := performAll_catalog (by decide +kernel)
    have htag : workshop.catalog.factory? "tag" = some tag := SortedMap.get?_insert_self ..
    have hpost : workshop.catalog.factory? "post" = some post :=
      (SortedMap.get?_insert_of_ne _ tag (by decide)).trans (SortedMap.get?_insert_self ..)
    have huser : workshop.catalog.factory? "user" = some user :=
      (SortedMap.get?_insert_of_ne _ tag (by decide)).trans
        ((SortedMap.get?_insert_of_ne _ post (by decide)).trans (SortedMap.get?_insert_self ..))
    rw [hc]
    exact ⟨hpost, huser, htag⟩
  have hresolved : block.workshop.catalog.resolveLink post user none =
        .ok { owner := .source, association := author } ∧
      block.workshop.catalog.resolveLink post tag none =
        .ok { owner := .source, association := tags } :=
    ⟨eq_ok_of_toOption (by decide +kernel), eq_ok_of_toOption (by decide +kernel)⟩
  have hends : Ends (Block.link toAuthor block) (fun written _ => written = 1)
        (fun _ _ => False) ∧
      Ends (Block.link toTag block) (fun written _ => written = 1) (fun _ _ => False) ∧
      Ends (Block.link toTag (after (Block.link toTag) block)) (fun _ _ => True)
        (fun _ _ => False) :=
    ⟨by decide +kernel, by decide +kernel, by decide +kernel⟩
  have hagain : ∀ {link : Link} {source target : Factory} {resolution : Resolution} {written : Nat}
      {left : Block Database},
      block.workshop.catalog.factory? link.source.factory = some source →
      block.workshop.catalog.factory? link.target.factory = some target →
      block.workshop.catalog.resolveLink source target link.via = .ok resolution →
      Block.link link block = .ok written left →
      match resolution.association.kind with
      | .belongsTo | .hasOne | .hasMany => Block.link link left = .ok written left
      | .manyToMany through _ _ => ∀ again last, Block.link link left = .ok again last →
        again = written ∧ JoinsAgain through written block left last := by
    intro link source target resolution written left hs ht hr hl
    obtain ⟨source', target', resolution', hs', ht', hr', hagain⟩ :=
      link_again workshop store attempts link hkeys hreachable hstatements hl
    cases hs.symm.trans hs'
    cases ht.symm.trans ht'
    cases hr.symm.trans hr'
    exact hagain
  clear_value block
  obtain ⟨hpost, huser, htag⟩ := hfound
  obtain ⟨hauthor, htags⟩ := hresolved
  obtain ⟨hlinked, htagged, htwice⟩ := hends
  constructor
  · cases hl : Block.link toAuthor block with
    | error error left =>
      rw [hl] at hlinked
      exact hlinked
    | ok written left =>
      rw [hl] at hlinked
      exact ⟨hlinked, hagain hpost huser hauthor hl⟩
  · cases hl : Block.link toTag block with
    | error error left =>
      rw [hl] at htagged
      exact htagged
    | ok written left =>
      rw [hl] at htagged
      rw [after_of_ok hl] at htwice
      refine ⟨htagged, ?_⟩
      cases hl' : Block.link toTag left with
      | error error last =>
        rw [hl'] at htwice
        exact htwice
      | ok again last =>
        have hrows := hagain hpost htag htags hl again last hl'
        cases htagged
        exact hrows

end Block

end Fixtures
