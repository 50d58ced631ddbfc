import Fixtures.Proofs.Context.Bindings
import Fixtures.Proofs.Context.Copies
import Fixtures.Proofs.Store.Replacing

/-!
# Merging into a context

A merge gives changes to the singleton of a factory: to its attributes, to the overrides that it
remembers, and to its record and row if it is saved (`Instance.merged`, `Instance.Stores`).  It
answers what a reader of the attributes with these changes answers, and touches nothing else.  Two
merges come to the one of both maps, which goes through if the two do, and a merge that fails
changes no record (`Context.merge_overlays`).
-/

namespace Fixtures

namespace Instance

variable {item item' : Instance} {first second changes : AttributeMap} {db db' db'' : Database}

/-- The instance with further overrides, its record included. -/
def merged (changes : AttributeMap) (item : Instance) : Instance :=
  { item with
    attributes := item.attributes.overlay changes
    overrides := item.overrides.overlay changes
    record := item.record.map (·.overlaid changes) }

theorem merged_merged (item : Instance) (first second : AttributeMap) :
    (item.merged first).merged second = item.merged (first.overlay second) := by
  unfold merged Record.overlaid
  dsimp only
  rw [SortedMap.overlay_assoc, SortedMap.overlay_assoc, Option.map_map]
  congr 2
  funext record
  show ({ record with attributes := _ } : Record) = _
  rw [SortedMap.overlay_assoc]

/-- What merging changes in a database: the row of a saved instance is replaced. -/
def Stores (changes : AttributeMap) (item : Instance) (db db' : Database) : Prop :=
  match item.record with
  | none => db' = db
  | some record =>
    Database.replace record (record.attributes.overlay changes) db =
      .ok (record.overlaid changes) db'

theorem override_of_none (h : item.record = none) (db : Database) :
    override changes (item, db) = .ok () (item.merged changes, db) := by
  obtain ⟨index, attributes, overrides, saved⟩ := item
  cases h
  rfl

/-- A failed replacement leaves the record without the changes. -/
theorem override_of_some {record : Record} (h : item.record = some record) (hn : db.Numbered) :
    override changes (item, db) =
      match Database.replace record (record.attributes.overlay changes) db with
      | .ok _ left => .ok () (item.merged changes, left)
      | .error error left =>
        .error (.store error) ({ item.merged changes with record := some record }, left) := by
  have hrevise : override changes (item, db) =
      revise changes ({ item with overrides := item.overrides.overlay changes }, db) := rfl
  have hreplace : RecordStore.replace record (record.attributes.overlay changes) db =
      Database.replace record (record.attributes.overlay changes) db := rfl
  rw [hrevise, revise_of_some changes db (by exact h), hreplace]
  cases hr : Database.replace record (record.attributes.overlay changes) db with
  | error error left =>
    unfold merged revised
    dsimp only
    rw [h]
  | ok found left =>
    unfold merged revised
    dsimp only
    rw [h, hn.replaced_eq hr]
    rfl

theorem override_eq_ok_iff (hn : db.Numbered) :
    override changes (item, db) = .ok () (item', db') ↔
      item' = item.merged changes ∧ item.Stores changes db db' := by
  unfold Stores
  cases hr : item.record with
  | none =>
    rw [override_of_none hr, EStateM.Result.ok.injEq, Prod.mk.injEq]
    constructor
    · rintro ⟨-, rfl, rfl⟩
      exact ⟨rfl, rfl⟩
    · rintro ⟨rfl, rfl⟩
      exact ⟨rfl, rfl, rfl⟩
  | some record =>
    rw [override_of_some hr hn]
    dsimp only
    cases hs : Database.replace record (record.attributes.overlay changes) db with
    | error error left => simp
    | ok found left =>
      have hfound : found = record.overlaid changes := hn.replaced_eq hs
      dsimp only
      rw [EStateM.Result.ok.injEq, EStateM.Result.ok.injEq, Prod.mk.injEq, hfound]
      constructor
      · rintro ⟨-, rfl, rfl⟩
        exact ⟨rfl, rfl, rfl⟩
      · rintro ⟨rfl, -, rfl⟩
        exact ⟨rfl, rfl, rfl⟩

theorem override_eq_error (hn : db.Numbered) {error : Error}
    (h : override changes (item, db) = .error error (item', db')) :
    db' = db ∧ item'.record = item.record := by
  cases hr : item.record with
  | none =>
    rw [override_of_none hr] at h
    cases h
  | some record =>
    rw [override_of_some hr hn] at h
    cases hs : Database.replace record (record.attributes.overlay changes) db with
    | ok found left =>
      rw [hs] at h
      cases h
    | error error' left =>
      rw [hs] at h
      cases h
      exact ⟨Database.replace_error hs, rfl⟩

theorem Stores.numbered (h : item.Stores changes db db') (hn : db.Numbered) : db'.Numbered := by
  unfold Stores at h
  cases hr : item.record with
  | none =>
    rw [hr] at h
    exact h ▸ hn
  | some record =>
    rw [hr] at h
    exact hn.replace h

/-- The row that comes in between does not matter. -/
theorem Stores.trans (hn : db.Numbered) (h : item.Stores first db db')
    (h' : (item.merged first).Stores second db' db'') :
    item.Stores (first.overlay second) db db'' := by
  unfold Stores at h h' ⊢
  unfold merged at h'
  dsimp only at h'
  cases hr : item.record with
  | none =>
    rw [hr] at h h'
    exact Eq.trans h' h
  | some record =>
    rw [hr] at h h'
    have hboth := hn.replace_replace h h'
    unfold Record.overlaid at hboth ⊢
    dsimp only at hboth ⊢
    rwa [SortedMap.overlay_assoc] at hboth

end Instance

namespace Context

variable {context : Context} {db : Database} {name hashName factory : String} {form : Form}
  {roster : Roster} {position : Nat} {item : Instance} {first second changes merged : AttributeMap}
  {left : Context × Database}

/-! ## Singletons with changes -/

theorem mergeTarget_of_binding (hb : context.bindings.get? name = some (factory, form))
    (hf : form.isCollection = false) (hr : context.rosters.get? factory = some roster)
    (hs : roster.singleton = some position) :
    context.mergeTarget name = .ok (factory, roster, position) := by
  unfold mergeTarget binding boundRoster roster?
  rw [hb]
  dsimp only [bind, Except.bind]
  rw [hf, hr]
  dsimp only
  rw [hs]
  rfl

theorem hash_of_binding (hb : context.bindings.get? hashName = some (factory, .singletonHash))
    (hr : context.rosters.get? factory = some roster) (hs : roster.singleton = some position)
    (hi : roster.instance? position = some item) :
    context.hash hashName = .ok item.attributes := by
  have hitem : roster.singletonInstance? = some item := by
    unfold Roster.singletonInstance?
    rw [hs, Option.bind_some, hi]
  unfold hash
  rw [singletonIn_eq_ok hb hr hitem]
  rfl

/-- The context with changes to one instance. -/
def withMerged (context : Context) (factory : String) (roster : Roster) (position : Nat)
    (item : Instance) (changes : AttributeMap) : Context :=
  context.setRoster factory (roster.setInstance position (item.merged changes))

theorem get?_withMerged : (context.withMerged factory roster position item changes).rosters.get?
    factory = some (roster.setInstance position (item.merged changes)) :=
  SortedMap.get?_insert_self ..

theorem withMerged_withMerged :
    (context.withMerged factory roster position item first).withMerged factory
        (roster.setInstance position (item.merged first)) position (item.merged first) second =
      context.withMerged factory roster position item (first.overlay second) := by
  unfold withMerged setRoster Roster.setInstance
  dsimp only
  rw [SortedMap.insert_insert, List.set_set, Instance.merged_merged]

theorem overlay_hashWith {read : AttributeMap} (h : context.hashWith name changes = .ok read) :
    read.overlay changes = read := by
  unfold hashWith at h
  cases hh : context.hash name with
  | error error =>
    rw [hh] at h
    cases h
  | ok attributes =>
    rw [hh] at h
    cases h
    rw [SortedMap.overlay_assoc, SortedMap.overlay_self]

theorem instance?_view (hr : context.rosters.get? factory = some roster)
    (hi : roster.instance? position = some item) (db : Database) :
    (view (context, db)).instance? (factory, position) = some item := by
  show (context.rosters.get? factory).bind _ = _
  rw [hr]
  exact hi

theorem instance?_view_setRoster (hr : context.rosters.get? factory = some roster)
    (hi : roster.instance? position = some item) (new : Instance) (db db' : Database)
    (place : String × Nat) :
    (view (context.setRoster factory (roster.setInstance position new), db')).instance? place =
      if place = (factory, position) then some new else (view (context, db)).instance? place := by
  have hput := Scene.ofRosters_setInstance hr hi new db db'
  show (Scene.ofRosters (context.rosters.insert factory _) db').instance? place = _
  rw [hput, Scene.instance?_put]
  rfl

/-! ## How a merge ends -/

/-- A merge overrides the singleton, and keeps what that leaves of it whether it succeeds or
fails. -/
theorem merge_of_some (ht : context.mergeTarget name = .ok (factory, roster, position))
    (hi : roster.instance? position = some item) (changes : AttributeMap) (db : Database) :
    merge name changes (context, db) =
      match Instance.override changes (item, db) with
      | .ok _ left => .ok left.1.attributes
        (context.setRoster factory (roster.setInstance position left.1), left.2)
      | .error error left => .error error
        (context.setRoster factory (roster.setInstance position left.1), left.2) := by
  unfold merge
  dsimp only
  rw [ht]
  dsimp only
  unfold Roster.override
  rw [Roster.onInstance_of_some _ _ hi]
  cases ho : Instance.override changes (item, db) with
  | error error left => rw [bind_of_error ho]
  | ok answer left =>
    rw [bind_of_ok ho]
    rfl

theorem merge_of_none (ht : context.mergeTarget name = .ok (factory, roster, position))
    (hi : roster.instance? position = none) (changes : AttributeMap) (db : Database) :
    ∃ error, merge name changes (context, db) = .error error (context, db) := by
  unfold merge
  dsimp only
  rw [ht]
  dsimp only
  unfold Roster.override
  rw [Roster.onInstance_of_none _ _ hi]
  dsimp only
  unfold setRoster
  rw [SortedMap.insert_eq_self (mergeTarget_eq_ok ht)]
  exact ⟨_, rfl⟩

theorem merge_eq_ok_iff (hn : db.Numbered)
    (ht : context.mergeTarget name = .ok (factory, roster, position)) :
    merge name changes (context, db) = .ok merged left ↔
      ∃ item, roster.instance? position = some item ∧
        merged = item.attributes.overlay changes ∧
        left.1 = context.withMerged factory roster position item changes ∧
        item.Stores changes db left.2 := by
  cases hi : roster.instance? position with
  | none =>
    obtain ⟨error, he⟩ := merge_of_none ht hi changes db
    rw [he]
    simp
  | some item =>
    have hiff : ∀ {item' : Instance} {db' : Database},
        Instance.override changes (item, db) = .ok () (item', db') ↔
          item' = item.merged changes ∧ item.Stores changes db db' :=
      Instance.override_eq_ok_iff hn
    rw [merge_of_some ht hi]
    constructor
    · intro h
      cases ho : Instance.override changes (item, db) with
      | error error state =>
        rw [ho] at h
        cases h
      | ok answer state =>
        rw [ho] at h
        cases h
        obtain ⟨hitem, hstores⟩ := hiff.mp ho
        refine ⟨item, rfl, ?_, ?_, hstores⟩
        · rw [hitem]
          rfl
        · rw [hitem]
          rfl
    · rintro ⟨found, hf, rfl, hleft, hstores⟩
      cases hf
      rw [hiff.mpr ⟨rfl, hstores⟩]
      show EStateM.Result.ok _ (context.withMerged factory roster position item changes, left.2) = _
      rw [← hleft]
      rfl

/-- Whether it is the target, the instance or the store that a merge fails on, no record
changes. -/
theorem merge_eq_error (hn : db.Numbered) {error : Error}
    (h : merge name changes (context, db) = .error error left) :
    left.2 = db ∧ ∀ place, ((view left).instance? place).bind (·.record) =
      ((view (context, db)).instance? place).bind (·.record) := by
  cases ht : context.mergeTarget name with
  | error error' =>
    have hleft := after_merge_of_error ht changes db
    rw [after_of_error h] at hleft
    subst hleft
    exact ⟨rfl, fun _ => rfl⟩
  | ok target =>
    obtain ⟨factory, roster, position⟩ := target
    cases hi : roster.instance? position with
    | none =>
      obtain ⟨error', he⟩ := merge_of_none ht hi changes db
      rw [he] at h
      cases h
      exact ⟨rfl, fun _ => rfl⟩
    | some item =>
      rw [merge_of_some ht hi] at h
      cases ho : Instance.override changes (item, db) with
      | ok answer state =>
        rw [ho] at h
        cases h
      | error error' state =>
        rw [ho] at h
        cases h
        obtain ⟨hstore, hrecord⟩ := Instance.override_eq_error hn ho
        refine ⟨hstore, fun place => ?_⟩
        have hr := mergeTarget_eq_ok ht
        rw [instance?_view_setRoster hr hi state.1 db]
        split
        · rename_i hp
          rw [hp, instance?_view hr hi]
          exact hrecord
        · rfl

/-- The instance at a place is changed, with its row if it has one, and nothing else in the context
or the database. -/
structure ChangesOnly (place : String × Nat) (changes : AttributeMap)
    (before left : Context × Database) : Prop where
  bindings : left.1.bindings = before.1.bindings
  rosters : ∀ factory, factory ≠ place.1 →
    left.1.rosters.get? factory = before.1.rosters.get? factory
  marks : (left.1.rosters.get? place.1).map Roster.marks =
    (before.1.rosters.get? place.1).map Roster.marks
  item : (view left).instance? place = ((view before).instance? place).map (·.merged changes)
  others : ∀ other, other ≠ place → (view left).instance? other = (view before).instance? other
  row : match ((view before).instance? place).bind (·.record) with
    | none => left.2 = before.2
    | some record =>
      before.2.Replaces record (record.attributes.overlay changes) (record.overlaid changes) left.2

theorem changesOnly (hn : db.Numbered) (hr : context.rosters.get? factory = some roster)
    (hi : roster.instance? position = some item) {db' : Database}
    (hs : item.Stores changes db db') :
    ChangesOnly (factory, position) changes (context, db)
      (context.withMerged factory roster position item changes, db') := by
  have hbefore := instance?_view hr hi db
  have hleft : ∀ place, (view (context.withMerged factory roster position item changes,
      db')).instance? place = if place = (factory, position) then some (item.merged changes)
        else (view (context, db)).instance? place :=
    instance?_view_setRoster hr hi (item.merged changes) db db'
  refine ⟨rfl, fun other hne => SortedMap.get?_insert_of_ne _ _ hne, ?_, ?_, fun other hne => ?_,
    ?_⟩
  · rw [get?_withMerged, hr]
    rfl
  · rw [hleft, if_pos rfl, hbefore]
    rfl
  · rw [hleft, if_neg hne]
  · rw [hbefore, Option.bind_some]
    unfold Instance.Stores at hs
    cases hrecord : item.record with
    | none =>
      rw [hrecord] at hs
      exact hs
    | some record =>
      rw [hrecord] at hs
      exact hn.replaces hs

/-- A merge by a name of a singleton answers the attributes with the changes, as reading them with
these changes did before and reading them does then.  Only that instance and its row are changed,
and a second merge could as well have been made together with the first.  A merge that fails leaves
the store and every record as they were. -/
theorem merge_overlays (h : db.Reachable)
    (hb : context.bindings.get? name = some (factory, form)) (hf : form.isCollection = false)
    (hh : context.bindings.get? hashName = some (factory, .singletonHash))
    (hr : context.rosters.get? factory = some roster) (hs : roster.singleton = some position)
    (first second : AttributeMap) :
    Ends (merge name first (context, db))
      (fun merged left =>
        context.hashWith hashName first = .ok merged ∧ left.1.hash hashName = .ok merged ∧
          ChangesOnly (factory, position) first (context, db) left ∧
          ∀ again last, merge name second left = .ok again last →
            merge name (first.overlay second) (context, db) = .ok again last)
      (fun _ left => left.2 = db ∧ ∀ place, ((view left).instance? place).bind (·.record) =
        ((view (context, db)).instance? place).bind (·.record)) ∧
    ∀ read, context.hashWith hashName first = .ok read → read.overlay first = read := by
  have hn := h.numbered
  have ht := mergeTarget_of_binding hb hf hr hs
  refine ⟨?_, fun _ => overlay_hashWith⟩
  · cases hm : merge name first (context, db) with
    | error error left => exact merge_eq_error hn hm
    | ok merged left =>
      obtain ⟨context', db'⟩ := left
      obtain ⟨item, hi, rfl, rfl, hstores⟩ := (merge_eq_ok_iff hn ht).mp hm
      -- The names are bound as before, and the singleton is where it was.
      have hb' : (context.withMerged factory roster position item first).bindings.get? name =
          some (factory, form) := hb
      have hh' : (context.withMerged factory roster position item first).bindings.get? hashName =
          some (factory, .singletonHash) := hh
      have hi' : (roster.setInstance position (item.merged first)).instance? position =
          some (item.merged first) := by
        rw [Roster.instance?_setInstance hi, if_pos rfl]
      refine ⟨?_, hash_of_binding hh' get?_withMerged hs hi', changesOnly hn hr hi hstores,
        fun again last hagain => ?_⟩
      · unfold hashWith
        rw [hash_of_binding hh hr hs hi]
        rfl
      · have ht' := mergeTarget_of_binding hb' hf get?_withMerged hs
        obtain ⟨item', hitem', rfl, hlast, hstores'⟩ :=
          (merge_eq_ok_iff (hstores.numbered hn) ht').mp hagain
        rw [hi'] at hitem'
        cases hitem'
        rw [withMerged_withMerged] at hlast
        exact (merge_eq_ok_iff hn ht).mpr
          ⟨item, hi, SortedMap.overlay_assoc .., hlast, hstores.trans hn hstores'⟩

/-- One user takes a free address twice, and is refused the address of another. -/
theorem merge_overlays_of_two_users :
    let email := fun text : String => (∅ : AttributeMap).insert "email" (.text text)
    let db : Database :=
      after (Database.insert "User" (email "b")) (after (Database.insert "User" (email "a"))
        { unique := [("User", "email")] })
    let user : Instance :=
      { index := 0, attributes := email "a", record := some ⟨"User", 1, email "a"⟩ }
    let context : Context :=
      { rosters := (∅ : SortedMap Roster).insert "user"
          { factory := "user", instances := [user], singleton := some 0, recordsClaimed := 1 }
        bindings := ((∅ : SortedMap (String × Form)).insert "user" ("user", .singleton)).insert
          "user_hash" ("user", .singletonHash) }
    Ends (Context.merge "user" (email "c") (context, db))
      (fun _ left => Ends (Context.merge "user" (email "d") left)
        (fun again last =>
          Context.merge "user" ((email "c").overlay (email "d")) (context, db) = .ok again last)
        fun _ _ => False)
      (fun _ _ => False) ∧
    Ends (Context.merge "user" (email "b") (context, db)) (fun _ _ => False)
      fun _ left => left.2 = db := by
  intro email db user context
  have hreachable : db.Reachable :=
    ((Database.Reachable.start.constrain [("User", "email")] []).insert "User" (email "a")).insert
      "User" (email "b")
  have hb : context.bindings.get? "user" = some ("user", .singleton) := by decide +kernel
  have hh : context.bindings.get? "user_hash" = some ("user", .singletonHash) := by decide +kernel
  have hr : context.rosters.get? "user" = some
      { factory := "user", instances := [user], singleton := some 0, recordsClaimed := 1 } := by
    decide +kernel
  have hends : Ends (Context.merge "user" (email "c") (context, db)) (fun _ _ => True)
        (fun _ _ => False) ∧
      Ends (Context.merge "user" (email "d")
        (after (Context.merge "user" (email "c")) (context, db))) (fun _ _ => True)
        (fun _ _ => False) ∧
      Ends (Context.merge "user" (email "b") (context, db)) (fun _ _ => False) fun _ _ => True :=
    ⟨by decide +kernel, by decide +kernel, by decide +kernel⟩
  clear_value context db
  obtain ⟨hok, hagain, hrefused⟩ := hends
  have hfirst := (merge_overlays hreachable hb rfl hh hr rfl (email "c") (email "d")).1
  have hother := (merge_overlays hreachable hb rfl hh hr rfl (email "b") ∅).1
  refine ⟨?_, (hother.and hrefused).mono (fun _ _ hm => hm.2) fun _ _ hm => hm.1.1⟩
  cases hm : Context.merge "user" (email "c") (context, db) with
  | error error left =>
    rw [hm] at hok
    exact hok
  | ok merged left =>
    rw [hm] at hfirst
    rw [after_of_ok hm] at hagain
    obtain ⟨-, -, -, hfused⟩ := hfirst
    show Ends (Context.merge "user" (email "d") left) _ _
    cases hs : Context.merge "user" (email "d") left with
    | error error last =>
      rw [hs] at hagain
      exact hagain
    | ok again last => exact hfused again last hs

end Context

end Fixtures
