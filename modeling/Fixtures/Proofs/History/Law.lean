import Fixtures.Proofs.History.Run

/-!
# Instances and their histories

The history of an instance determines it: the attributes are those of its building with all changes
since over them, the overrides are those of its building with all later overrides over them, and the
record is what the factory made of the new row with the accepted changes since over it
(`Explained`).  Blocks and merges leave only instances that their histories explain
(`Context.mergeAll_explained`).
-/

namespace Fixtures

/-! ## Maps under several changes -/

/-- The map with one change after the other over it. -/
def SortedMap.overlayAll {α : Type} (m : SortedMap α) (changes : List (SortedMap α)) :
    SortedMap α :=
  changes.foldl SortedMap.overlay m

theorem SortedMap.overlayAll_concat {α : Type} (m : SortedMap α) (changes : List (SortedMap α))
    (last : SortedMap α) :
    m.overlayAll (changes ++ [last]) = (m.overlayAll changes).overlay last :=
  List.foldl_concat ..

/-- What no change names stays. -/
theorem SortedMap.get?_overlayAll_of_none {α : Type} {m : SortedMap α}
    {changes : List (SortedMap α)} {k : String} (h : ∀ change ∈ changes, change.get? k = none) :
    (m.overlayAll changes).get? k = m.get? k := by
  induction changes generalizing m with
  | nil => rfl
  | cons change rest ih =>
    show ((m.overlay change).overlayAll rest).get? k = m.get? k
    rw [ih fun change hc => h change (List.mem_cons_of_mem _ hc), SortedMap.get?_overlay,
      h change List.mem_cons_self, Option.none_or]

/-! ## Histories -/

namespace Event

def change? : Event → Option AttributeMap
  | .changed _ changes _ => some changes
  | .built .. | .saved .. | .lost .. => none

def override? : Event → Option AttributeMap
  | .changed .override changes _ => some changes
  | .changed .link .. | .built .. | .saved .. | .lost .. => none

def accepted? : Event → Option AttributeMap
  | .changed _ changes true => some changes
  | .changed _ _ false | .built .. | .saved .. | .lost .. => none

def isSaved : Event → Bool
  | .saved .. => true
  | .built .. | .changed .. | .lost .. => false

theorem change?_of_accepted? {event : Event} {changes : AttributeMap}
    (h : event.accepted? = some changes) : event.change? = some changes := by
  cases event with
  | changed cause changes accepted =>
    cases accepted with
    | true => exact h
    | false => cases h
  | built | saved | lost => cases h

end Event

theorem filterMap_concat_of_none {α β : Type} {f : α → Option β} {last : α} (h : f last = none)
    (l : List α) : (l ++ [last]).filterMap f = l.filterMap f := by
  rw [List.filterMap_append, List.filterMap_cons_none h]
  exact List.append_nil _

section

variable {ι : Type} [DecidableEq ι]

/-- What an incident is to the instance at a place. -/
def Incident.at? (place : ι) : Incident ι → Option Event
  | .of place' event => if place' = place then some event else none
  | .joined _ => none

/-- The history of the instance at a place. -/
def history (place : ι) (incidents : List (Incident ι)) : List Event :=
  incidents.filterMap (Incident.at? place)

theorem history_concat_self (place : ι) (incidents : List (Incident ι)) (event : Event) :
    history place (incidents ++ [.of place event]) = history place incidents ++ [event] := by
  unfold history
  rw [List.filterMap_append]
  congr 1
  exact List.filterMap_cons_some (if_pos rfl)

theorem history_concat_other {place place' : ι} (h : place' ≠ place)
    (incidents : List (Incident ι)) (event : Event) :
    history place (incidents ++ [.of place' event]) = history place incidents := by
  have hn : (Incident.of place' event).at? place = none := if_neg h
  exact filterMap_concat_of_none hn incidents

theorem history_concat_joined (place : ι) (incidents : List (Incident ι)) (row : Record) :
    history place (incidents ++ [.joined row]) = history place incidents :=
  filterMap_concat_of_none rfl incidents

end

/-! ## The law -/

/-- How a record came about: from a row inserted with the attributes that the instance had by then,
as the factory left them, with the changes over them that the store accepted since. -/
structure Recorded (built : AttributeMap) (earlier : List Event) (factory : Factory)
    (created : Record) (since : List Event) (record : Record) : Prop where
  once : ∀ event ∈ earlier ++ since, event.isSaved = false
  inserted : created.attributes = built.overlayAll (earlier.filterMap Event.change?)
  attributes : record.attributes =
    (factory.afterCreating created).attributes.overlayAll (since.filterMap Event.accepted?)
  -- So a field that the factory wrote is still there, unless a change named it.
  kept : ∀ field, (∀ changes ∈ since.filterMap Event.change?, changes.get? field = none) →
    record.attributes.get? field = (factory.afterCreating created).attributes.get? field

/-- How an instance came about that was built with attributes and overrides, from what happened to
it later. -/
structure Explains (built overrides : AttributeMap) (later : List Event) (item : Instance) :
    Prop where
  attributes : item.attributes = built.overlayAll (later.filterMap Event.change?)
  overrides : item.overrides = overrides.overlayAll (later.filterMap Event.override?)
  unsaved : item.record = none → ∀ event ∈ later, event.isSaved = false
  saved : ∀ record, item.record = some record → ∃ earlier factory created since,
    later = earlier ++ .saved factory created :: since ∧
      Recorded built earlier factory created since record

/-- A history explains what there is at a place.  An instance is built with what the hook of the
factory makes of the evaluated attributes with the overrides over them. -/
inductive Explained : List Event → Option Instance → Prop
  | absent : Explained [] none
  | present {factory : Factory} {evaluated overrides built : AttributeMap} {later : List Event}
      {item : Instance} (he : factory.attributesAt item.index = .ok evaluated)
      (hb : built = factory.hooks.afterBuild.getD id (evaluated.overlay overrides))
      (hl : Explains built overrides later item)
      (hk : ∀ field, (∀ changes ∈ later.filterMap Event.change?, changes.get? field = none) →
        item.attributes.get? field = built.get? field) :
      Explained (.built factory evaluated overrides :: later) (some item)

section

variable {built overrides : AttributeMap} {earlier later since : List Event} {event : Event}
  {factory : Factory} {item : Instance} {created record found : Record}

theorem Recorded.of_attributes (ho : ∀ event ∈ earlier ++ since, event.isSaved = false)
    (hc : created.attributes = built.overlayAll (earlier.filterMap Event.change?))
    (ha : record.attributes =
      (factory.afterCreating created).attributes.overlayAll (since.filterMap Event.accepted?)) :
    Recorded built earlier factory created since record := by
  refine ⟨ho, hc, ha, fun field hf => ?_⟩
  rw [ha]
  apply SortedMap.get?_overlayAll_of_none
  intro changes hm
  obtain ⟨event, he, hac⟩ := List.mem_filterMap.mp hm
  exact hf changes (List.mem_filterMap.mpr ⟨event, he, Event.change?_of_accepted? hac⟩)

/-- A change of a saved instance is one more change since its saving. -/
theorem Recorded.changed {cause : Cause} {changes : AttributeMap} {accepted : Bool}
    (h : Recorded built earlier factory created since record)
    (hf : found.attributes =
      if accepted then record.attributes.overlay changes else record.attributes) :
    Recorded built earlier factory created (since ++ [Event.changed cause changes accepted])
      found := by
  apply Recorded.of_attributes
  · intro event he
    rw [← List.append_assoc, List.mem_append, List.mem_singleton] at he
    rcases he with he | rfl
    · exact h.once event he
    · rfl
  · exact h.inserted
  · cases accepted with
    | true =>
      rw [hf, if_pos rfl, h.attributes, List.filterMap_append]
      exact (SortedMap.overlayAll_concat ..).symm
    | false =>
      rw [hf, if_neg Bool.false_ne_true, h.attributes, filterMap_concat_of_none rfl]

theorem changes_concat (later : List Event) (cause : Cause) (changes : AttributeMap)
    (accepted : Bool) :
    (later ++ [Event.changed cause changes accepted]).filterMap Event.change? =
      later.filterMap Event.change? ++ [changes] :=
  List.filterMap_append

theorem overrides_concat_changed {changes : AttributeMap} {accepted : Bool} (cause : Cause)
    (h : item.overrides = overrides.overlayAll (later.filterMap Event.override?)) :
    (item.changedBy cause changes).overrides = overrides.overlayAll
      ((later ++ [Event.changed cause changes accepted]).filterMap Event.override?) := by
  cases cause with
  | override =>
    rw [List.filterMap_append,
      show ([.changed .override changes accepted] : List Event).filterMap Event.override? =
        [changes] from rfl, SortedMap.overlayAll_concat, ← h]
    rfl
  | link =>
    rw [filterMap_concat_of_none rfl]
    exact h

theorem Explains.changed (h : Explains built overrides later item) (cause : Cause)
    (changes : AttributeMap) (accepted : Bool) (new : Option Record)
    (hn : item.record = none → new = none)
    (hs : ∀ record, item.record = some record → ∃ found, new = some found ∧ found.attributes =
      if accepted then record.attributes.overlay changes else record.attributes) :
    Explains built overrides (later ++ [Event.changed cause changes accepted])
      { item.changedBy cause changes with record := new } where
  attributes := by
    rw [changes_concat, SortedMap.overlayAll_concat, ← h.attributes]
    exact item.changedBy_attributes cause changes
  overrides := overrides_concat_changed cause h.overrides
  unsaved hr event he := by
    change new = none at hr
    rw [List.mem_append, List.mem_singleton] at he
    rcases he with he | rfl
    · refine h.unsaved ?_ event he
      cases hi : item.record with
      | none => rfl
      | some record =>
        obtain ⟨found, hf, -⟩ := hs record hi
        rw [hf] at hr
        cases hr
    · rfl
  saved found hr := by
    change new = some found at hr
    cases hi : item.record with
    | none =>
      rw [hn hi] at hr
      cases hr
    | some record =>
      obtain ⟨found', hf, ha⟩ := hs record hi
      rw [hf] at hr
      cases hr
      obtain ⟨earlier, factory, created, since, hl, hrec⟩ := h.saved record hi
      exact ⟨earlier, factory, created, since ++ [Event.changed cause changes accepted],
        by rw [hl, List.append_assoc, List.cons_append], hrec.changed ha⟩

theorem Explains.saved_concat (h : Explains built overrides later item)
    (hr : item.record = none) (hc : created.attributes = item.attributes)
    (ha : record.attributes = (factory.afterCreating created).attributes) :
    Explains built overrides (later ++ [Event.saved factory created])
      { item with record := some record } where
  attributes := by
    rw [filterMap_concat_of_none rfl]
    exact h.attributes
  overrides := by
    rw [filterMap_concat_of_none rfl]
    exact h.overrides
  unsaved hn := nomatch hn
  saved found hf := by
    cases hf
    refine ⟨later, factory, created, [], rfl, Recorded.of_attributes ?_ ?_ ha⟩
    · rw [List.append_nil]
      exact h.unsaved hr
    · rw [hc, h.attributes]

theorem Explains.lost_concat (h : Explains built overrides later item) (hr : item.record = none) :
    Explains built overrides (later ++ [Event.lost factory created]) item where
  attributes := by
    rw [filterMap_concat_of_none rfl]
    exact h.attributes
  overrides := by
    rw [filterMap_concat_of_none rfl]
    exact h.overrides
  unsaved _ event he := by
    rw [List.mem_append, List.mem_singleton] at he
    rcases he with he | rfl
    · exact h.unsaved hr event he
    · rfl
  saved record hs := by
    rw [hr] at hs
    cases hs

end

theorem Database.insert_attributes {db db' : Database} {model : String} {attributes : AttributeMap}
    {created : Record} (h : Database.insert model attributes db = .ok created db') :
    created.attributes = attributes := by
  obtain ⟨-, rfl, -⟩ := Database.insert_eq_ok_iff.mp h
  rfl

theorem Database.replace_attributes {db db' : Database} {record found : Record}
    {attributes : AttributeMap} (h : Database.replace record attributes db = .ok found db') :
    found.attributes = attributes := by
  obtain ⟨-, i, old, -, -, rfl, -⟩ := Database.replace_eq_ok h
  rfl

theorem Explained.effect {P : Factory → Prop} {events : List Event} {event : Event}
    {old new : Option Instance × Database} (h : Explained events old.1)
    (he : Effect P old event new) : Explained (events ++ [event]) new.1 := by
  -- An event after the building leaves the index, and the rest is the law for later events.
  have hlater : ∀ {item : Instance} (item' : Instance), Explained events (some item) →
      item'.index = item.index →
      (∀ built overrides later, Explains built overrides later item →
        Explains built overrides (later ++ [event]) item') →
      Explained (events ++ [event]) (some item') := by
    intro item item' hi hindex hx
    cases hi with
    | present ha hb hl hk =>
      have hl' := hx _ _ _ hl
      refine Explained.present (hindex ▸ ha) hb hl' fun field hf => ?_
      rw [hl'.attributes]
      exact SortedMap.get?_overlayAll_of_none hf
  cases he with
  | built overrides db hp ha =>
    cases h
    exact .present ha (Factory.finish_eq ..)
      ⟨rfl, rfl, fun _ _ he => (List.not_mem_nil he).elim, nofun⟩ fun _ _ => rfl
  | @changed item cause changes db hr =>
    apply hlater _ h (item.changedBy_index cause changes)
    intro built overrides later hl
    have hc := hl.changed cause changes true none (fun _ => rfl) fun record hs => by
      rw [hr] at hs
      cases hs
    rwa [← hr, ← item.changedBy_record cause changes] at hc
  | @accepted item record found db db' cause changes hr hd =>
    apply hlater { item.changedBy cause changes with record := some found } h
      (item.changedBy_index cause changes)
    intro built overrides later hl
    refine hl.changed cause changes true (some found) (fun hn => ?_) fun old ho => ⟨found, rfl, ?_⟩
    · rw [hr] at hn
      cases hn
    · rw [hr] at ho
      cases ho
      exact Database.replace_attributes hd
  | @refused item record cause changes db hr =>
    apply hlater _ h (item.changedBy_index cause changes)
    intro built overrides later hl
    have hc := hl.changed cause changes false (some record)
      (fun hn => by rw [hr] at hn; cases hn) fun old ho => ⟨record, rfl, by
        rw [hr] at ho
        cases ho
        rfl⟩
    rwa [← hr, ← item.changedBy_record cause changes] at hc
  | saved hp hr hd hv =>
    exact hlater _ h rfl fun _ _ _ hl => hl.saved_concat hr (Database.insert_attributes hd) rfl
  | rewritten hp hr hd hd' =>
    exact hlater _ h rfl fun _ _ _ hl =>
      hl.saved_concat hr (Database.insert_attributes hd) (Database.replace_attributes hd')
  | lost hp hr hd hv => exact hlater _ h rfl fun _ _ _ hl => hl.lost_concat hr

/-- What happens at one place is no part of the history of another. -/
theorem Explained.step {ι : Type} [DecidableEq ι] {P : ι → Factory → Prop}
    {incidents : List (Incident ι)} {incident : Incident ι} {scene scene' : Scene ι}
    (h : ∀ place, Explained (history place incidents) (scene.instance? place))
    (hs : Scene.Step P scene incident scene') (place : ι) :
    Explained (history place (incidents ++ [incident])) (scene'.instance? place) := by
  cases hs with
  | @of place' event part he =>
    rw [Scene.instance?_put]
    by_cases hp : place = place'
    · rw [if_pos hp, hp, history_concat_self]
      exact Explained.effect (h place') he
    · rw [if_neg hp, history_concat_other (Ne.symm hp)]
      exact h place
  | joined hd =>
    rw [history_concat_joined]
    exact h place

namespace Context

open Block (start performAll)

variable {σ : Type} [RecordStore σ] [DatabaseBacked σ]

/-- After a block and any merges on its context, whatever the store refused, the history of every
instance explains it, and where there is no instance nothing has happened. -/
theorem mergeAll_explained (enumeration : Enumeration) (workshop : Workshop) (store : σ)
    (attempts : List Attempt) (merges : List (String × AttributeMap)) :
    let block := after (performAll attempts) (start workshop store)
    let opened := (block.context enumeration, block.store)
    let incidents := Block.seen attempts (start workshop store) ++ seen merges opened
    let left := mergeAll merges opened
    ∀ name position, Explained (history (name, position) incidents)
      ((left.1.roster? name).bind (·.instance? position)) := by
  intro block opened incidents left name position
  have hb : Trail (Scene.Step fun _ _ => True) (start workshop store).view
      (Block.seen attempts (start workshop store)) block.view :=
    Block.seen_trail (Q := fun _ => True) (fun _ _ _ _ _ _ => trivial)
      (fun _ _ _ _ => trivial) trivial
  have ht := hb.trans (seen_trail merges opened)
  have hstart : ∀ place, Explained (history place [])
      ((start workshop store).view.instance? place) := fun _ => Explained.absent
  exact ht.keeps (P := fun incidents scene => ∀ place,
    Explained (history place incidents) (scene.instance? place)) hstart
    (fun _ _ _ _ h hs => Explained.step h hs) (name, position)

/-- The hook makes a login of the name, which is an override.  The user is built with both and
saved, and the merge that the store refuses leaves the login and reaches the attributes only. -/
theorem mergeAll_explained_of_hook :
    let user : Factory := (({ name := "user", model := "User" } : Factory).withField "email"
      (.template "u\x7bn\x7d@tut.by")).withAfterBuild fun attributes =>
        attributes.insert "login" ((attributes.get? "name").getD .null)
    let workshop : Workshop := { catalog := (∅ : Catalog).register user }
    let store : Journal Database := { store := {}, refusedReplaces := [0] }
    let named : AttributeMap := (∅ : AttributeMap).insert "name" (.text "Ann")
    let moved : AttributeMap := (∅ : AttributeMap).insert "email" (.text "ann@tut.by")
    let attempts : List Attempt := [⟨.declare "user" (.overrides [named]), false⟩]
    let block := after (performAll attempts) (start workshop store)
    let opened := (block.context .listed, block.store)
    let events := history ("user", 0)
      (Block.seen attempts (start workshop store) ++ seen [("user", moved)] opened)
    let item? := ((mergeAll [("user", moved)] opened).1.roster? "user").bind (·.instance? 0)
    Explained events item? ∧
      events.map (fun event => (event.isSaved, event.change?, event.accepted?)) =
        [(false, none, none), (true, none, none), (false, some moved, none)] ∧
      item?.map (fun item => (item.attributes, item.record.map (·.attributes))) =
        some ((((∅ : AttributeMap).insert "email" (.text "ann@tut.by")).insert "login"
          (.text "Ann")).insert "name" (.text "Ann"),
          some ((((∅ : AttributeMap).insert "email" (.text "u0@tut.by")).insert "login"
            (.text "Ann")).insert "name" (.text "Ann"))) := by
  intro user workshop store named moved attempts block opened events item?
  exact ⟨mergeAll_explained .listed workshop store attempts [("user", moved)] "user" 0,
    by decide +kernel, by decide +kernel⟩

end Context

end Fixtures
