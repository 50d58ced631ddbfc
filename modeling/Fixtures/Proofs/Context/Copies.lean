import Fixtures.Proofs.Block.Agreement
import Fixtures.Proofs.History.Law

/-!
# Copies of a context

A context, or the roster of one of its factories, may be copied, and every copy may be merged into.
A merge sends the whole record to the store, made of the record that its own copy keeps.  So a copy
knows nothing of what was merged through the others, and overwrites it: a row ends up as it was when
the copies were made, with only that over it which was merged through the copy that merged last
(`Copies.merges_row`).  Nothing is lost if all merges of an instance go through one copy.
-/

namespace Fixtures

open DatabaseBacked

/-- The record with further attributes over it. -/
def Record.overlaid (overrides : AttributeMap) (record : Record) : Record :=
  { record with attributes := record.attributes.overlay overrides }

/-- The record with one map after the other over it. -/
def Record.overlaidAll (maps : List AttributeMap) (record : Record) : Record :=
  { record with attributes := record.attributes.overlayAll maps }

theorem Record.overlaidAll_concat (maps : List AttributeMap) (last : AttributeMap)
    (record : Record) :
    record.overlaidAll (maps ++ [last]) = (record.overlaidAll maps).overlaid last := by
  unfold overlaidAll overlaid
  rw [SortedMap.overlayAll_concat]

/-! ## One merge -/

/-- A copy of a context, or of the roster of one factory. -/
inductive Copy where
  | ofContext (context : Context)
  | ofRoster (factory : String) (roster : Roster)

namespace Copy

def rosters : Copy → SortedMap Roster
  | .ofContext context => context.rosters
  | .ofRoster factory roster => (∅ : SortedMap Roster).insert factory roster

def instance? (copy : Copy) (place : String × Nat) : Option Instance :=
  (copy.rosters.get? place.1).bind (·.instance? place.2)

/-- The record that the copy keeps for an instance, if it has the instance. -/
def held? (copy : Copy) (place : String × Nat) : Option (Option Record) :=
  (copy.instance? place).map (·.record)

theorem held?_of_rosters {copy copy' : Copy} (place : String × Nat) {roster : Roster}
    {item item' : Instance} (hr : copy.rosters.get? place.1 = some roster)
    (hi : roster.instance? place.2 = some item)
    (he : copy'.rosters = copy.rosters.insert place.1 (roster.setInstance place.2 item'))
    (place' : String × Nat) :
    copy'.held? place' = if place' = place then some item'.record else copy.held? place' := by
  unfold held? instance?
  rw [he, SortedMap.get?_insert]
  by_cases hf : place'.1 = place.1
  · rw [if_pos hf, Option.bind_some, Roster.instance?_setInstance hi]
    by_cases hp : place'.2 = place.2
    · rw [if_pos hp, if_pos (Prod.ext hf hp)]
      rfl
    · rw [if_neg hp, if_neg fun he => hp (congrArg Prod.snd he), hf, hr, Option.bind_some]
  · rw [if_neg hf, if_neg fun he => hf (congrArg Prod.fst he)]

variable {σ : Type} [RecordStore σ] {overrides : AttributeMap} {copy copy' : Copy}
  {store store' : σ} {place : String × Nat}

/-- A successful merge into the instance at a place: by a name of a context, or at a position of a
roster. -/
inductive Merges (overrides : AttributeMap) : Copy → σ → String × Nat → Copy → σ → Prop
  | context {context context' : Context} {store store' : σ} {name factory : String}
      {roster : Roster} {position : Nat} {merged : AttributeMap}
      (ht : context.mergeTarget name = .ok (factory, roster, position))
      (h : Context.merge name overrides (context, store) = .ok merged (context', store')) :
      Merges overrides (.ofContext context) store (factory, position) (.ofContext context') store'
  | roster {factory : String} {roster roster' : Roster} {store store' : σ} {position : Nat}
      {merged : AttributeMap}
      (h : Roster.override position overrides (roster, store) = .ok merged (roster', store')) :
      Merges overrides (.ofRoster factory roster) store (factory, position)
        (.ofRoster factory roster') store'

/-- One instance of the copy is overridden, together with the store. -/
structure Overridden (overrides : AttributeMap) (copy : Copy) (store : σ) (place : String × Nat)
    (copy' : Copy) (store' : σ) (roster : Roster) (item item' : Instance) : Prop where
  found : copy.rosters.get? place.1 = some roster
  present : roster.instance? place.2 = some item
  override : Instance.override overrides (item, store) = .ok () (item', store')
  rosters : copy'.rosters = copy.rosters.insert place.1 (roster.setInstance place.2 item')

theorem override_eq_ok {roster roster' : Roster} {position : Nat} {merged : AttributeMap}
    (h : Roster.override position overrides (roster, store) = .ok merged (roster', store')) :
    ∃ item item', roster.instance? position = some item ∧
      Instance.override overrides (item, store) = .ok () (item', store') ∧
      roster' = roster.setInstance position item' := by
  unfold Roster.override at h
  cases hi : roster.instance? position with
  | none =>
    rw [Roster.onInstance_of_none _ _ hi] at h
    cases h
  | some item =>
    rw [Roster.onInstance_of_some _ _ hi] at h
    cases ho : Instance.override overrides (item, store) with
    | error error left =>
      rw [bind_of_error ho] at h
      cases h
    | ok answer left =>
      rw [bind_of_ok ho] at h
      cases h
      exact ⟨item, left.1, rfl, ho, rfl⟩

/-- Either way, a merge overrides an instance of the copy. -/
theorem Merges.overridden (h : copy.Merges overrides store place copy' store') :
    ∃ roster item item', copy.Overridden overrides store place copy' store' roster item item' := by
  cases h with
  | @context context context' _ _ name factory roster position merged ht h =>
    unfold Context.merge at h
    dsimp only at h
    rw [ht] at h
    dsimp only at h
    cases ho : Roster.override position overrides (roster, store) with
    | error error left =>
      rw [ho] at h
      cases h
    | ok answer left =>
      rw [ho] at h
      cases h
      obtain ⟨item, item', hi, hi', he⟩ := override_eq_ok ho
      refine ⟨roster, item, item', Context.mergeTarget_eq_ok ht, hi, hi', ?_⟩
      show context.rosters.insert factory left.1 = _
      rw [he]
      rfl
  | @roster factory roster roster' _ _ position merged h =>
    obtain ⟨item, item', hi, hi', rfl⟩ := override_eq_ok h
    refine ⟨roster, item, item', SortedMap.get?_insert_self .., hi, hi', ?_⟩
    exact (SortedMap.insert_insert ..).symm

/-- What a merge did, with the record that the copy kept before. -/
structure Merged (overrides : AttributeMap) (copy copy' : Copy) (db db' : Database)
    (place : String × Nat) (record : Option Record) : Prop where
  numbered : db'.Numbered
  before : copy.held? place = some record
  held : ∀ place', copy'.held? place' =
    if place' = place then some (record.map (·.overlaid overrides)) else copy.held? place'
  rows : ∀ key : String × Int, db'.find? key.1 key.2 =
    if record.map Record.key = some key then record.map (·.overlaid overrides)
    else db.find? key.1 key.2

theorem Overridden.held {roster : Roster} {item item' : Instance}
    (h : copy.Overridden overrides store place copy' store' roster item item')
    (place' : String × Nat) :
    copy'.held? place' = if place' = place then some item'.record else copy.held? place' :=
  held?_of_rosters place h.found h.present h.rosters place'

variable [DatabaseBacked σ]

theorem Merges.merged (h : copy.Merges overrides store place copy' store')
    (hn : (database store).Numbered) :
    ∃ record, Merged overrides copy copy' (database store) (database store') place record := by
  obtain ⟨roster, item, item', ho⟩ := h.overridden
  have hb : copy.held? place = some item.record := by
    unfold held? instance?
    rw [ho.found, Option.bind_some, ho.present]
    rfl
  have hrevise : Instance.revise overrides
      ({ item with overrides := item.overrides.overlay overrides }, store) =
        .ok () (item', store') := ho.override
  refine ⟨item.record, ?_⟩
  cases hr : item.record with
  | none =>
    rw [Instance.revise_of_none overrides store (by exact hr)] at hrevise
    cases hrevise
    exact ⟨hn, hr ▸ hb, fun place' => (ho.held place').trans (by rw [hr]; rfl), fun _ => rfl⟩
  | some record =>
    rw [Instance.revise_of_some overrides store (by exact hr)] at hrevise
    cases hs : RecordStore.replace record (record.attributes.overlay overrides) store with
    | error error left =>
      rw [hs] at hrevise
      cases hrevise
    | ok found left =>
      rw [hs] at hrevise
      cases hrevise
      have hd := replace_ok hs
      have hfound : found = record.overlaid overrides := by
        obtain ⟨hm, hi⟩ := hn.replaced_key hd
        have ha := Database.replace_attributes hd
        cases found
        cases hm
        cases hi
        cases ha
        rfl
      rw [hfound] at hd
      refine ⟨hn.replace hd, hr ▸ hb, fun place' => ?_, fun key => ?_⟩
      · rw [ho.held, hfound]
        rfl
      · rw [hn.find?_replace hd]
        by_cases hk : key = record.key
        · rw [if_pos ⟨congrArg Prod.fst hk, congrArg Prod.snd hk⟩, hk]
          exact (if_pos rfl).symm
        · rw [if_neg fun he => hk (Prod.ext he.1 he.2)]
          exact (if_neg fun he => hk (Option.some.inj he).symm).symm

end Copy

/-! ## Many copies -/

/-- A successful merge through one of several copies. -/
structure Merge (ι : Type) where
  through : ι
  place : String × Nat
  overrides : AttributeMap
  deriving DecidableEq

namespace Merge

variable {ι : Type}

/-- What was merged into an instance, in order. -/
def into (place : String × Nat) (merges : List (Merge ι)) : List AttributeMap :=
  (merges.filter (·.place = place)).map (·.overrides)

/-- The copy through which an instance was merged into last. -/
def last? (place : String × Nat) (merges : List (Merge ι)) : Option ι :=
  ((merges.filter (·.place = place)).getLast?).map (·.through)

variable {copy : ι} {place : String × Nat} {merges : List (Merge ι)} {merge : Merge ι}

theorem into_concat_self :
    into merge.place (merges ++ [merge]) = into merge.place merges ++ [merge.overrides] := by
  simp [into, List.filter_append]

theorem into_concat_other (h : merge.place ≠ place) :
    into place (merges ++ [merge]) = into place merges := by
  simp [into, List.filter_append, h]

theorem last?_concat_self (merges : List (Merge ι)) (merge : Merge ι) :
    last? merge.place (merges ++ [merge]) = some merge.through := by
  simp [last?, List.filter_append]

theorem last?_concat_other (h : merge.place ≠ place) :
    last? place (merges ++ [merge]) = last? place merges := by
  simp [last?, List.filter_append, h]

theorem last?_of_alone (h : ∀ merge ∈ merges, merge.place = place → merge.through = copy)
    (hs : ∃ merge ∈ merges, merge.place = place) : last? place merges = some copy := by
  unfold last?
  cases hl : (merges.filter (·.place = place)).getLast? with
  | none =>
    obtain ⟨merge, hm, hp⟩ := hs
    have hf : merge ∈ merges.filter (·.place = place) :=
      List.mem_filter.mpr ⟨hm, decide_eq_true hp⟩
    rw [List.getLast?_eq_none_iff.mp hl] at hf
    cases hf
  | some merge =>
    obtain ⟨hm, hp⟩ := List.mem_filter.mp (List.mem_of_getLast? hl)
    rw [Option.map_some, h merge hm (of_decide_eq_true hp)]

variable [DecidableEq ι]

/-- What was merged into an instance through one of the copies, in order. -/
def intoThrough (copy : ι) (place : String × Nat) (merges : List (Merge ι)) : List AttributeMap :=
  into place (merges.filter (·.through = copy))

theorem intoThrough_concat_self (merges : List (Merge ι)) (merge : Merge ι) :
    intoThrough merge.through merge.place (merges ++ [merge]) =
      intoThrough merge.through merge.place merges ++ [merge.overrides] := by
  have hf : (merges ++ [merge]).filter (·.through = merge.through) =
      merges.filter (·.through = merge.through) ++ [merge] := by simp
  unfold intoThrough
  rw [hf, into_concat_self]

theorem intoThrough_concat_other (h : ¬(merge.through = copy ∧ merge.place = place)) :
    intoThrough copy place (merges ++ [merge]) = intoThrough copy place merges := by
  unfold intoThrough
  by_cases hc : merge.through = copy
  · have hf : (merges ++ [merge]).filter (·.through = copy) =
        merges.filter (·.through = copy) ++ [merge] := by simp [hc]
    rw [hf, into_concat_other fun hp => h ⟨hc, hp⟩]
  · have hf : (merges ++ [merge]).filter (·.through = copy) =
        merges.filter (·.through = copy) := by simp [hc]
    rw [hf]

/-- If all merges into an instance go through one copy, none is missing in what went through it. -/
theorem intoThrough_of_alone
    (h : ∀ merge ∈ merges, merge.place = place → merge.through = copy) :
    intoThrough copy place merges = into place merges := by
  unfold intoThrough into
  rw [List.filter_filter]
  congr 1
  apply List.filter_congr
  intro merge hm
  by_cases hp : merge.place = place
  · rw [decide_eq_true hp, decide_eq_true (h merge hm hp)]
    rfl
  · rw [decide_eq_false hp, Bool.false_and]

end Merge

/-- Several copies over one store. -/
structure Copies (ι σ : Type) where
  copy : ι → Copy
  store : σ

namespace Copies

variable {ι σ : Type} [DecidableEq ι] [RecordStore σ]

/-- A merge through one copy leaves the others as they are. -/
inductive Step : Copies ι σ → Merge ι → Copies ι σ → Prop
  | merge {copies : Copies ι σ} {through : ι} {place : String × Nat} {overrides : AttributeMap}
      {copy' : Copy} {store' : σ}
      (h : (copies.copy through).Merges overrides copies.store place copy' store') :
      Step copies ⟨through, place, overrides⟩
        { copy := Function.update copies.copy through copy', store := store' }

theorem Step.of_context {copies : Copies ι σ} (through : ι) {context : Context}
    {name factory : String} {roster : Roster} {position : Nat} {overrides : AttributeMap}
    (hc : copies.copy through = .ofContext context)
    (ht : (context.mergeTarget name).toOption = some (factory, roster, position))
    (h : Ends (Context.merge name overrides (context, copies.store)) (fun _ _ => True)
      fun _ _ => False) :
    copies.Step ⟨through, (factory, position), overrides⟩
      { copy := Function.update copies.copy through
          (.ofContext (after (Context.merge name overrides) (context, copies.store)).1)
        store := (after (Context.merge name overrides) (context, copies.store)).2 } := by
  apply Step.merge
  rw [hc]
  cases hm : Context.merge name overrides (context, copies.store) with
  | error error left =>
    rw [hm] at h
    exact h.elim
  | ok merged left =>
    rw [after_of_ok hm]
    cases hr : context.mergeTarget name with
    | error error =>
      rw [hr] at ht
      cases ht
    | ok target =>
      rw [hr] at ht
      cases ht
      exact .context hr hm

variable [DatabaseBacked σ]

/-- Copies of what has these records: an instance that a copy has is one of them, and no two of
them have one key. -/
structure Shares (records : String × Nat → Option Record) (copies : Copies ι σ) : Prop where
  held : ∀ i place record, (copies.copy i).held? place = some record → record = records place
  separate : ∀ place place' record record', records place = some record →
    records place' = some record' → place ≠ place' → record.key ≠ record'.key

/-- What became of the copies and of the rows by the merges so far. -/
structure Follows (records : String × Nat → Option Record) (start : Copies ι σ)
    (merges : List (Merge ι)) (copies : Copies ι σ) : Prop where
  numbered : (database copies.store).Numbered
  held : ∀ i place, (copies.copy i).held? place =
    ((start.copy i).held? place).map
      (·.map (Record.overlaidAll (Merge.intoThrough i place merges)))
  rows : ∀ place record, records place = some record →
    (database copies.store).find? record.model record.id =
      match Merge.last? place merges with
      | none => (database start.store).find? record.model record.id
      | some i => some (record.overlaidAll (Merge.intoThrough i place merges))

variable {records : String × Nat → Option Record} {start copies copies' : Copies ι σ}
  {merges : List (Merge ι)} {merge : Merge ι}

theorem Follows.refl (hn : (database start.store).Numbered) : Follows records start [] start := by
  refine ⟨hn, fun i place => ?_, fun place record hr => rfl⟩
  have hid : Option.map (Record.overlaidAll []) = id := by
    funext record
    cases record <;> rfl
  show _ = ((start.copy i).held? place).map (Option.map (Record.overlaidAll []))
  rw [hid, Option.map_id, id_eq]

/-- A copy keeps the record of the start, under what was merged through this copy. -/
theorem Follows.kept (hs : Shares records start) (h : Follows records start merges copies) {i : ι}
    {place : String × Nat} {record : Option Record}
    (hb : (copies.copy i).held? place = some record) :
    (start.copy i).held? place = some (records place) ∧
      record = (records place).map (Record.overlaidAll (Merge.intoThrough i place merges)) := by
  rw [h.held, Option.map_eq_some_iff] at hb
  obtain ⟨old, hold, rfl⟩ := hb
  rw [← hs.held _ _ _ hold]
  exact ⟨hold, rfl⟩

theorem Follows.step (hs : Shares records start) (h : Follows records start merges copies)
    (hstep : copies.Step merge copies') : Follows records start (merges ++ [merge]) copies' := by
  cases hstep with
  | @merge through place overrides copy' store' hm =>
    obtain ⟨record, hm⟩ := hm.merged h.numbered
    obtain ⟨hold, hrecord⟩ := h.kept hs hm.before
    have hkey : record.map Record.key = (records place).map Record.key := by
      rw [hrecord, Option.map_map]
      rfl
    have hself : Merge.intoThrough through place (merges ++ [⟨through, place, overrides⟩]) =
        Merge.intoThrough through place merges ++ [overrides] :=
      Merge.intoThrough_concat_self merges ⟨through, place, overrides⟩
    have hover : record.map (Record.overlaid overrides) = (records place).map (Record.overlaidAll
        (Merge.intoThrough through place (merges ++ [⟨through, place, overrides⟩]))) := by
      rw [hrecord, hself, Option.map_map]
      congr 1
      funext record
      exact (Record.overlaidAll_concat _ _ _).symm
    refine ⟨hm.numbered, fun i place' => ?_, fun place' record' hr => ?_⟩
    · show (Function.update copies.copy through copy' i).held? place' = _
      by_cases hi : i = through
      · rw [hi, Function.update_self, hm.held]
        by_cases hp : place' = place
        · rw [if_pos hp, hp, hold, hover]
          rfl
        · rw [if_neg hp, h.held, Merge.intoThrough_concat_other fun he => hp he.2.symm]
      · rw [Function.update_of_ne hi, h.held,
          Merge.intoThrough_concat_other fun he => hi he.1.symm]
    · have hrow := hm.rows record'.key
      change (database store').find? record'.model record'.id = _ at hrow
      show (database store').find? record'.model record'.id = _
      rw [hrow]
      by_cases hp : place' = place
      · subst hp
        have hlast : Merge.last? place' (merges ++ [⟨through, place', overrides⟩]) =
            some through := Merge.last?_concat_self merges ⟨through, place', overrides⟩
        rw [hlast, if_pos (by rw [hkey, hr]; rfl), hover, hr]
        rfl
      · have hne : ¬record.map Record.key = some record'.key := by
          rw [hkey]
          intro he
          obtain ⟨other, ho, he⟩ := Option.map_eq_some_iff.mp he
          exact hs.separate _ _ _ _ ho hr (Ne.symm hp) he
        -- Another row is written, and the merges of this one are the same as before.
        have hlast : Merge.last? place' (merges ++ [⟨through, place, overrides⟩]) =
            Merge.last? place' merges := Merge.last?_concat_other (Ne.symm hp)
        have hsame : ∀ i, Merge.intoThrough i place' (merges ++ [⟨through, place, overrides⟩]) =
            Merge.intoThrough i place' merges := fun i =>
          Merge.intoThrough_concat_other fun he => hp he.2.symm
        rw [if_neg hne, hlast]
        refine (h.rows place' record' hr).trans ?_
        cases Merge.last? place' merges with
        | none => rfl
        | some i =>
          dsimp only
          rw [hsame]

theorem Follows.of_trail (hs : Shares records start) (hn : (database start.store).Numbered)
    (h : Trail Step start merges copies) : Follows records start merges copies := by
  have hf : Follows records start ([] ++ merges) copies :=
    h.keeps (P := Follows records start) (Follows.refl hn) fun _ _ _ _ hf hstep => hf.step hs hstep
  exact hf

end Copies

/-! ## Copies of what a block left -/

namespace Copy

/-- A copy of the context itself, or of one of its rosters. -/
inductive Of (context : Context) : Copy → Prop
  | context : Of context (.ofContext context)
  | roster {factory : String} {roster : Roster} (h : context.rosters.get? factory = some roster) :
      Of context (.ofRoster factory roster)

/-- The record of the instance at a place. -/
def record? (copy : Copy) (place : String × Nat) : Option Record := (copy.held? place).join

theorem Of.record? {context : Context} {copy : Copy} (h : copy.Of context) {place : String × Nat}
    {record : Option Record} (hr : copy.held? place = some record) :
    record = (ofContext context).record? place := by
  cases h with
  | context =>
    unfold Copy.record?
    rw [hr]
    rfl
  | @roster factory roster h =>
    unfold Copy.record?
    unfold held? instance? rosters at hr ⊢
    dsimp only at hr ⊢
    rw [SortedMap.get?_insert] at hr
    by_cases hp : place.1 = factory
    · rw [if_pos hp] at hr
      rw [hp, h, hr]
      rfl
    · rw [if_neg hp] at hr
      cases hr

theorem record?_context {σ : Type} (enumeration : Enumeration) (block : Block σ)
    (place : String × Nat) :
    (ofContext (block.context enumeration)).record? place = block.record? place.1 place.2 := by
  show ((((block.rosters.get? place.1).bind _).map _).join : Option Record) = _
  unfold Block.record? Roster.record?
  cases block.rosters.get? place.1 with
  | none => rfl
  | some roster =>
    rw [Option.bind_some, Option.bind_some]
    cases roster.instance? place.2 <;> rfl

end Copy

namespace Context

variable {σ : Type} [RecordStore σ] [DatabaseBacked σ]

/-- The database is numbered, and the records of the context agree with it. -/
structure Sound (context : Context) (store : σ) : Prop where
  numbered : (database store).Numbered
  agrees : Agrees (database store) fun name position =>
    (Copy.ofContext context).record? (name, position)

theorem Sound.merge {context : Context} {store : σ} (h : context.Sound store) (name : String)
    (overrides : AttributeMap) :
    (after (Context.merge name overrides) (context, store)).1.Sound
      (after (Context.merge name overrides) (context, store)).2 := by
  cases ht : context.mergeTarget name with
  | error error =>
    rw [after_merge_of_error ht]
    exact h
  | ok target =>
    obtain ⟨factory, roster, position⟩ := target
    cases hi : roster.instance? position with
    | none =>
      rw [after_merge_of_none ht hi]
      exact h
    | some item =>
      have hs := item.override_recordStep overrides store h.numbered
      rw [after_merge ht hi]
      generalize after (Instance.override overrides) (item, store) = left at hs
      obtain ⟨item', store'⟩ := left
      have hr : (Copy.ofContext context).rosters.get? factory = some roster := mergeTarget_eq_ok ht
      have hrecord : ∀ place, (Copy.ofContext (context.setRoster factory
          (roster.setInstance position item'))).record? place =
            if place = (factory, position) then item'.record
            else (Copy.ofContext context).record? place := by
        intro place
        unfold Copy.record?
        rw [Copy.held?_of_rosters (factory, position) hr hi rfl place]
        split <;> rfl
      have hold : (Copy.ofContext context).record? (factory, position) = item.record := by
        unfold Copy.record? Copy.held? Copy.instance?
        rw [hr, Option.bind_some, hi]
        rfl
      have hchange : RecordChange (database store) (database store')
          ((Copy.ofContext context).record? (factory, position))
          ((Copy.ofContext (context.setRoster factory (roster.setInstance position item'))).record?
            (factory, position)) := by
        rw [hrecord, if_pos rfl, hold]
        exact hs.change
      refine ⟨hs.numbered, h.agrees.change (fun name' position' hne => ?_) hchange⟩
      rw [hrecord, if_neg hne]

theorem Sound.mergeAll {context : Context} {store : σ} (h : context.Sound store)
    (merges : List (String × AttributeMap)) :
    (mergeAll merges (context, store)).1.Sound (mergeAll merges (context, store)).2 := by
  induction merges generalizing context store with
  | nil => exact h
  | cons merge rest ih =>
    obtain ⟨name, overrides⟩ := merge
    exact ih (h.merge name overrides)

end Context

theorem Block.Sound.context {σ : Type} [RecordStore σ] [DatabaseBacked σ] {block : Block σ}
    (h : block.Sound) (enumeration : Enumeration) :
    (block.context enumeration).Sound block.store := by
  refine ⟨h.numbered, ?_⟩
  have hr : (fun name position =>
      (Copy.ofContext (block.context enumeration)).record? (name, position)) = block.record? := by
    funext name position
    exact Copy.record?_context enumeration block (name, position)
  rw [hr]
  exact h.agrees

namespace Copies

variable {ι σ : Type} [DecidableEq ι] [RecordStore σ] [DatabaseBacked σ]

/-- Copies are made of the context of a block, perhaps after merges into the context.  Successful
merges through them leave a row that was not merged into as it was; any other has over the starting
record just the maps that came through the copy of the last merge.  So it has all of them, in the
order of the merges, if they all came through one copy. -/
theorem merges_row (enumeration : Enumeration) (workshop : Workshop) (store : σ)
    (attempts : List Attempt) (earlier : List (String × AttributeMap)) (start : Copies ι σ)
    {context : Context} {left : Copies ι σ} {merges : List (Merge ι)} {place : String × Nat}
    {record : Record}
    (hk : workshop.catalog.KeepsKeys) (hr : (database store).Reachable)
    (hs : ∀ attempt ∈ attempts, attempt.statement.KeepsKeys)
    (he : Context.mergeAll earlier
      ((after (Block.performAll attempts) (Block.start workshop store)).context enumeration,
        (after (Block.performAll attempts) (Block.start workshop store)).store) =
      (context, start.store))
    (hc : ∀ i, (start.copy i).Of context) (h : Trail Step start merges left)
    (hp : (Copy.ofContext context).record? place = some record) :
    (∃ row, (database start.store).find? record.model record.id = some row ∧ record.same row ∧
      (database left.store).find? record.model record.id =
        match Merge.last? place merges with
        | none => some row
        | some i => some (record.overlaidAll (Merge.intoThrough i place merges))) ∧
    ∀ i, (∀ merge ∈ merges, merge.place = place → merge.through = i) →
      (∃ merge ∈ merges, merge.place = place) →
        (database left.store).find? record.model record.id =
          some (record.overlaidAll (Merge.into place merges)) := by
  have hsound : context.Sound start.store := by
    have hm := ((Block.sound_performAll hk hr hs).context enumeration).mergeAll earlier
    rwa [he] at hm
  obtain ⟨row, hrow, hsame⟩ := hsound.agrees.stored place.1 place.2 record hp
  have hshares : Shares (Copy.ofContext context).record? start := by
    refine ⟨fun i place held hheld => (hc i).record? hheld, fun place place' r r' h₁ h₂ hne => ?_⟩
    exact hsound.agrees.separate place.1 place.2 place'.1 place'.2 r r' h₁ h₂ hne
  have hf := (Follows.of_trail hshares hsound.numbered h).rows place record hp
  refine ⟨⟨row, hrow, hsame, ?_⟩, fun i halone hsome => ?_⟩
  · rw [hf, hrow]
  · rw [hf, Merge.last?_of_alone halone hsome]
    dsimp only
    rw [Merge.intoThrough_of_alone halone]

/-- A field is merged into one copy of a context, and then another field into another copy.  Both
merges succeed, and the row does not have the first field. -/
theorem merges_lost :
    let user : Factory :=
      { name := "user"
        model := "User"
        fields := (∅ : SortedMap Expression).insert "email" (.template "user{n}@tut.by") }
    let workshop : Workshop := { catalog := (∅ : Catalog).register user }
    let block : Block Database :=
      after (Block.performAll [⟨.declare "user" .none, false⟩]) (Block.start workshop {})
    let context := block.context .listed
    let first : AttributeMap := (∅ : AttributeMap).insert "a" (.int 1)
    let second : AttributeMap := (∅ : AttributeMap).insert "b" (.int 2)
    Ends (Context.merge "user" first (context, block.store))
      (fun _ left => Ends (Context.merge "user" second (context, left.2))
        (fun _ left =>
          (block.store.find? "User" 1).map
              (Record.overlaidAll [first, second]) ≠ left.2.find? "User" 1 ∧
            left.2.find? "User" 1 = (block.store.find? "User" 1).map (Record.overlaidAll [second]))
        fun _ _ => False)
      fun _ _ => False := by
  decide +kernel

/-- The second copy knows nothing of what was merged into the first. -/
theorem merges_row_of_two :
    let user : Factory :=
      { name := "user"
        model := "User"
        fields := (∅ : SortedMap Expression).insert "email" (.template "user{n}@tut.by") }
    let workshop : Workshop := { catalog := (∅ : Catalog).register user }
    let block : Block Database :=
      after (Block.performAll [⟨.declare "user" .none, false⟩]) (Block.start workshop {})
    let context := block.context .listed
    let first : AttributeMap := (∅ : AttributeMap).insert "a" (.int 1)
    let second : AttributeMap := (∅ : AttributeMap).insert "b" (.int 2)
    ∃ left, Trail Step { copy := fun _ : Bool => .ofContext context, store := block.store }
        [⟨false, ("user", 0), first⟩, ⟨true, ("user", 0), second⟩] left ∧
      left.store.find? "User" 1 =
        some (Record.overlaidAll [second]
          ⟨"User", 1, (∅ : AttributeMap).insert "email" (.text "user0@tut.by")⟩) := by
  intro user workshop block context first second
  have hblock : after (Block.performAll [⟨.declare "user" .none, false⟩])
    (Block.start workshop {}) = block := rfl
  have hcontext : block.context .listed = context := rfl
  have ht : (context.mergeTarget "user").toOption =
      some ("user", (block.bench "user").roster, 0) := by decide +kernel
  have h₁ : Ends (Context.merge "user" first (context, block.store))
      (fun _ _ => True) fun _ _ => False := by decide +kernel
  have h₂ : Ends (Context.merge "user" second (context,
      (after (Context.merge "user" first) (context, block.store)).2))
      (fun _ _ => True) fun _ _ => False := by decide +kernel
  have hp : (Copy.ofContext context).record? ("user", 0) =
      some ⟨"User", 1, (∅ : AttributeMap).insert "email" (.text "user0@tut.by")⟩ := by
    decide +kernel
  have hk : workshop.catalog.KeepsKeys :=
    Catalog.KeepsKeys.register (fun _ _ h => by cases h) fun _ h => by cases h
  -- From here on it does not matter how the block came about.
  clear_value context block
  obtain ⟨middle, ⟨hcopy, hstore⟩, hstep⟩ : ∃ middle : Copies Bool Database,
      (middle.copy true = .ofContext context ∧
        middle.store = (after (Context.merge "user" first) (context, block.store)).2) ∧
      Step { copy := fun _ => .ofContext context, store := block.store }
        ⟨false, ("user", 0), first⟩ middle :=
    ⟨_, ⟨rfl, rfl⟩, Step.of_context false rfl ht h₁⟩
  have htrail : Trail Step _ [⟨false, ("user", 0), first⟩, ⟨true, ("user", 0), second⟩] _ :=
    (Trail.single hstep).snoc (Step.of_context true hcopy ht (hstore ▸ h₂))
  refine ⟨_, htrail, ?_⟩
  have he : Context.mergeAll [] ((after (Block.performAll [⟨.declare "user" .none, false⟩])
        (Block.start workshop ({} : Database))).context .listed,
      (after (Block.performAll [⟨.declare "user" .none, false⟩]) (Block.start workshop {})).store) =
      (context, block.store) := by
    rw [hblock, hcontext]
    rfl
  have hs : ∀ attempt ∈ ([⟨.declare "user" .none, false⟩] : List Attempt),
      attempt.statement.KeepsKeys := by
    intro attempt ha
    rw [List.mem_singleton.mp ha]
    trivial
  have hlast : Merge.last? ("user", 0) [⟨false, ("user", 0), first⟩, ⟨true, ("user", 0), second⟩] =
      some true := by decide +kernel
  have hinto : Merge.intoThrough true ("user", 0)
      [⟨false, ("user", 0), first⟩, ⟨true, ("user", 0), second⟩] = [second] := by decide +kernel
  obtain ⟨⟨row, -, -, hrow⟩, -⟩ := merges_row .listed workshop ({} : Database) _ []
    { copy := fun _ => .ofContext context, store := block.store } hk
    Database.Reachable.start hs he (fun _ => .context) htrail hp
  rw [hlast] at hrow
  dsimp only at hrow
  rw [hinto] at hrow
  exact hrow

end Copies

end Fixtures
