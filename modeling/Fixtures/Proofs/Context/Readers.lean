import Fixtures.Proofs.Block.Accessors
import Fixtures.Proofs.Block.Order

/-!
# What readers answer

A reader answers for the names of one form.  It fails for want of an accessor unless the name is
bound in its form, then for want of a declaration unless the form was declared, then, if it is to
answer records, for want of a record, and otherwise it answers what the form stands for, in the
order of creation.  In a context that a block has left there is nothing else to go wrong
(`Workshop.run_readers`): bound names have rosters, and singletons are instances.
-/

namespace Fixtures

/-- How a factory was declared, where a reader of the form finds no declaration of it. -/
def Form.instead (form : Form) : Multiplicity :=
  if form.isCollection then .singleton else .collection

namespace Roster

/-- The instances that a form stands for. -/
def selected (roster : Roster) (form : Form) : List Instance :=
  if form.isCollection then roster.instances else roster.singletonInstance?.toList

end Roster

namespace Context

/-- The reader of a form. -/
def reader (context : Context) (name : String) : Form → Except Error Reading
  | .singleton => (context.record name).map .record
  | .singletonHash => (context.hash name).map .hash
  | .collection => (context.records name).map .records
  | .collectionHash => (context.hashes name).map .hashes

/-- What a form answers of the instances that it stands for. -/
inductive Reads : Form → List Instance → Reading → Prop
  | record {item : Instance} {record : Record} (h : item.record = some record) :
      Reads .singleton [item] (.record record)
  | hash (item : Instance) : Reads .singletonHash [item] (.hash item.attributes)
  | records {items : List Instance} {records : List Record}
      (h : items.map (·.record) = records.map some) : Reads .collection items (.records records)
  | hashes (items : List Instance) :
      Reads .collectionHash items (.hashes (items.map (·.attributes)))

/-- How reading a name in a form ends.  The conditions exclude each other. -/
inductive Outcome (context : Context) (name : String) (form : Form) : Except Error Reading → Prop
  | unbound (h : ∀ factory, context.bindings.get? name ≠ some (factory, form)) :
      Outcome context name form (.error (.noSuchAccessor name))
  | undeclared {factory : String} {roster : Roster}
      (hb : context.bindings.get? name = some (factory, form))
      (hr : context.rosters.get? factory = some roster) (hd : roster.declares form = false) :
      Outcome context name form (.error (.ambiguousAccess name form.instead))
  | unsaved {factory : String} {roster : Roster} {item : Instance}
      (hb : context.bindings.get? name = some (factory, form))
      (hr : context.rosters.get? factory = some roster) (hd : roster.declares form = true)
      (hf : form.isHash = false) (hi : item ∈ roster.selected form) (hn : item.record = none) :
      Outcome context name form (.error (.notPersisted name))
  | reads {factory : String} {roster : Roster} {reading : Reading}
      (hb : context.bindings.get? name = some (factory, form))
      (hr : context.rosters.get? factory = some roster) (hd : roster.declares form = true)
      (h : Reads form (roster.selected form) reading) : Outcome context name form (.ok reading)

variable {context : Context} {name factory : String} {form : Form} {roster : Roster}
  {items : List Instance} {result : Except Error Reading}

/-! ## What each reader does -/

theorem rosterIn_of_unbound (h : ∀ factory, context.bindings.get? name ≠ some (factory, form)) :
    context.rosterIn form name = .error (.noSuchAccessor name) := by
  unfold rosterIn binding
  cases hb : context.bindings.get? name with
  | none => rfl
  | some bound =>
    have hne : bound.2 ≠ form := fun he => h bound.1 (he ▸ hb)
    show (if bound.2 = form then _ else _) = _
    rw [if_neg hne]

theorem reader_of_error {error : Error} (h : context.rosterIn form name = .error error) :
    context.reader name form = .error error := by
  cases form with
  | singleton =>
    unfold reader record singletonIn
    rw [h]
    rfl
  | singletonHash =>
    unfold reader hash singletonIn
    rw [h]
    rfl
  | collection =>
    unfold reader records collectionIn
    rw [h]
    rfl
  | collectionHash =>
    unfold reader hashes collectionIn
    rw [h]
    rfl

theorem singletonIn_of_undeclared (h : context.rosterIn form name = .ok roster)
    (hs : roster.hasSingleton = false) :
    context.singletonIn form name = .error (.ambiguousAccess name .collection) := by
  have hi : roster.singletonInstance? = none := by
    unfold Roster.singletonInstance?
    rw [Option.not_isSome_iff_eq_none.mp (Bool.eq_false_iff.mp hs)]
    rfl
  unfold singletonIn
  rw [h]
  dsimp only [bind, Except.bind]
  rw [hi]

theorem collectionIn_of_undeclared (h : context.rosterIn form name = .ok roster)
    (hc : roster.hasCollection = false) :
    context.collectionIn form name = .error (.ambiguousAccess name .singleton) := by
  unfold collectionIn
  rw [h]
  show (if roster.hasCollection then _ else _) = _
  rw [hc]
  rfl

theorem recordOf_eq_ok_iff {item : Instance} {record : Record} :
    recordOf name item = .ok record ↔ item.record = some record := by
  unfold recordOf
  cases item.record <;> simp

theorem mapM_recordOf_of_none {item : Instance} (hi : item ∈ items) (hn : item.record = none) :
    items.mapM (recordOf name) = .error (.notPersisted name) := by
  cases hm : items.mapM (recordOf name) with
  | error error => rw [mapM_recordOf_error hm]
  | ok records =>
    obtain ⟨record, hrecord⟩ := mapM_isOk_iff.mp ⟨records, hm⟩ item hi
    rw [recordOf_eq_ok_iff, hn] at hrecord
    cases hrecord

theorem mapM_recordOf_of_some {records : List Record}
    (h : items.map (·.record) = records.map some) :
    items.mapM (recordOf name) = .ok records := by
  have hrecord : ∀ item,
      recordOf name item = item.record.elim (.error (.notPersisted name)) .ok := by
    intro item
    unfold recordOf
    cases item.record <;> rfl
  rw [mapM_eq_ok_iff]
  calc items.map (recordOf name)
      = (items.map (·.record)).map (·.elim (.error (.notPersisted name)) .ok) := by
        rw [List.map_map]
        exact List.map_congr_left fun item _ => hrecord item
    _ = records.map .ok := by
        rw [h, List.map_map]
        rfl

theorem exists_records (h : ∀ item ∈ items, item.record ≠ none) :
    ∃ records : List Record, items.map (·.record) = records.map some := by
  induction items with
  | nil => exact ⟨[], rfl⟩
  | cons item rest ih =>
    obtain ⟨record, hr⟩ := Option.ne_none_iff_exists'.mp (h item List.mem_cons_self)
    obtain ⟨records, hrs⟩ := ih fun other ho => h other (List.mem_cons_of_mem _ ho)
    exact ⟨record :: records, by rw [List.map_cons, List.map_cons, hr, hrs]⟩

theorem reader_of_undeclared (hb : context.bindings.get? name = some (factory, form))
    (hr : context.rosters.get? factory = some roster) (hd : roster.declares form = false) :
    context.reader name form = .error (.ambiguousAccess name form.instead) := by
  have hin := rosterIn_eq_ok hb hr
  cases form with
  | singleton =>
    unfold reader record
    rw [singletonIn_of_undeclared hin hd]
    rfl
  | singletonHash =>
    unfold reader hash
    rw [singletonIn_of_undeclared hin hd]
    rfl
  | collection =>
    unfold reader records
    rw [collectionIn_of_undeclared hin hd]
    rfl
  | collectionHash =>
    unfold reader hashes
    rw [collectionIn_of_undeclared hin hd]
    rfl

theorem reader_of_unsaved {item : Instance}
    (hb : context.bindings.get? name = some (factory, form))
    (hr : context.rosters.get? factory = some roster) (hd : roster.declares form = true)
    (hf : form.isHash = false) (hi : item ∈ roster.selected form) (hn : item.record = none) :
    context.reader name form = .error (.notPersisted name) := by
  cases form with
  | singleton =>
    unfold reader record
    rw [singletonIn_eq_ok hb hr (Option.mem_toList.mp hi)]
    dsimp only [bind, Except.bind]
    unfold recordOf
    rw [hn]
    rfl
  | collection =>
    have hitem : item ∈ roster.instances := hi
    unfold reader records
    rw [collectionIn_eq_ok hb hr hd]
    dsimp only [bind, Except.bind]
    rw [mapM_recordOf_of_none hitem hn]
    rfl
  | singletonHash | collectionHash => cases hf

theorem reader_of_reads {reading : Reading}
    (hb : context.bindings.get? name = some (factory, form))
    (hr : context.rosters.get? factory = some roster) (hd : roster.declares form = true)
    (h : Reads form (roster.selected form) reading) : context.reader name form = .ok reading := by
  generalize hs : roster.selected form = items at h
  cases h with
  | @record item record h =>
    have hi : roster.singletonInstance? = some item := Option.toList_eq_singleton_iff.mp hs
    unfold reader Context.record
    rw [singletonIn_eq_ok hb hr hi]
    dsimp only [bind, Except.bind]
    unfold recordOf
    rw [h]
    rfl
  | hash item =>
    have hi : roster.singletonInstance? = some item := Option.toList_eq_singleton_iff.mp hs
    unfold reader Context.hash
    rw [singletonIn_eq_ok hb hr hi]
    rfl
  | @records items records h =>
    have hi : roster.instances = items := hs
    unfold reader Context.records
    rw [collectionIn_eq_ok hb hr hd]
    dsimp only [bind, Except.bind]
    rw [hi, mapM_recordOf_of_some h]
    rfl
  | hashes items =>
    have hi : roster.instances = items := hs
    unfold reader Context.hashes
    rw [collectionIn_eq_ok hb hr hd, hi]
    rfl

/-! ## Outcomes -/

theorem Outcome.reader_eq (h : context.Outcome name form result) :
    context.reader name form = result := by
  cases h with
  | unbound h => exact reader_of_error (rosterIn_of_unbound h)
  | undeclared hb hr hd => exact reader_of_undeclared hb hr hd
  | unsaved hb hr hd hf hi hn => exact reader_of_unsaved hb hr hd hf hi hn
  | reads hb hr hd h => exact reader_of_reads hb hr hd h

/-- Every bound name stands for a factory with a roster, and every roster has the instances that
its marks speak of. -/
structure Coherent (context : Context) : Prop where
  bound : ∀ name factory form, context.bindings.get? name = some (factory, form) →
    ∃ roster, context.rosters.get? factory = some roster
  rosters : ∀ factory roster, context.rosters.get? factory = some roster → roster.Counted

/-- A form that was declared and has all the records it needs is read. -/
theorem exists_reads (hc : roster.Counted) (hd : roster.declares form = true)
    (hs : form.isHash = false → ∀ item ∈ roster.selected form, item.record ≠ none) :
    ∃ reading, Reads form (roster.selected form) reading := by
  cases form with
  | singleton =>
    obtain ⟨item, hi⟩ := hc.singletonInstance? hd
    have hselected : roster.selected .singleton = [item] := Option.toList_eq_singleton_iff.mpr hi
    rw [hselected] at hs ⊢
    obtain ⟨record, hr⟩ := Option.ne_none_iff_exists'.mp (hs rfl item List.mem_cons_self)
    exact ⟨_, .record hr⟩
  | singletonHash =>
    obtain ⟨item, hi⟩ := hc.singletonInstance? hd
    have hselected : roster.selected .singletonHash = [item] :=
      Option.toList_eq_singleton_iff.mpr hi
    rw [hselected]
    exact ⟨_, .hash item⟩
  | collection =>
    obtain ⟨records, hr⟩ := exists_records (hs rfl)
    exact ⟨_, .records hr⟩
  | collectionHash => exact ⟨_, .hashes _⟩

/-- There is nothing else to go wrong. -/
theorem Coherent.exists_outcome (hc : context.Coherent) (name : String) (form : Form) :
    ∃ result, context.Outcome name form result := by
  by_cases hb : ∃ factory, context.bindings.get? name = some (factory, form)
  · obtain ⟨factory, hb⟩ := hb
    obtain ⟨roster, hr⟩ := hc.bound name factory form hb
    cases hd : roster.declares form with
    | false => exact ⟨_, .undeclared hb hr hd⟩
    | true =>
      by_cases hs : form.isHash = false ∧ ∃ item ∈ roster.selected form, item.record = none
      · obtain ⟨hf, item, hi, hn⟩ := hs
        exact ⟨_, .unsaved hb hr hd hf hi hn⟩
      · obtain ⟨reading, hreads⟩ := exists_reads (hc.rosters factory roster hr) hd
          fun hf item hi hn => hs ⟨hf, item, hi, hn⟩
        exact ⟨_, .reads hb hr hd hreads⟩
  · exact ⟨_, .unbound fun factory he => hb ⟨factory, he⟩⟩

theorem Coherent.reader_eq_iff (hc : context.Coherent) :
    context.reader name form = result ↔ context.Outcome name form result := by
  refine ⟨fun h => ?_, Outcome.reader_eq⟩
  obtain ⟨other, ho⟩ := hc.exists_outcome name form
  rw [← h, ho.reader_eq]
  exact ho

/-! ## Reading by any name -/

theorem read_of_unbound (h : context.bindings.get? name = none) :
    context.read name = .error (.noSuchAccessor name) := by
  unfold read binding
  rw [h]
  rfl

theorem read_of_bound (h : context.bindings.get? name = some (factory, form)) :
    context.read name = context.reader name form := by
  unfold read binding
  rw [h]
  cases form <;> rfl

/-- A name that is bound in the form of the reader is not one that it misses. -/
theorem Outcome.error_of_bound {error : Error} (h : context.Outcome name form (.error error))
    (hb : context.bindings.get? name = some (factory, form)) :
    (∀ missing, error ≠ .noSuchAccessor missing) ∧
      (error.isMissingAccessor = true ↔
        ∃ roster, context.rosters.get? factory = some roster ∧ roster.declares form = false) := by
  cases h with
  | unbound h => exact absurd hb (h factory)
  | undeclared hb' hr hd =>
    rw [hb] at hb'
    cases hb'
    exact ⟨nofun, fun _ => ⟨_, hr, hd⟩, fun _ => rfl⟩
  | unsaved hb' hr hd =>
    rw [hb] at hb'
    cases hb'
    refine ⟨nofun, nofun, ?_⟩
    rintro ⟨roster, hr', hd'⟩
    rw [hr] at hr'
    cases hr'
    rw [hd] at hd'
    cases hd'

theorem Coherent.read_missing_iff (hc : context.Coherent) (missing : String) :
    context.read name = .error (.noSuchAccessor missing) ↔
      missing = name ∧ context.bindings.get? name = none := by
  cases hb : context.bindings.get? name with
  | none =>
    rw [read_of_unbound hb, Except.error.injEq, Error.noSuchAccessor.injEq]
    exact ⟨fun h => ⟨h.symm, rfl⟩, fun h => h.1.symm⟩
  | some bound =>
    rw [read_of_bound hb, hc.reader_eq_iff]
    refine ⟨fun h => ?_, nofun⟩
    exact absurd rfl ((h.error_of_bound hb).1 missing)

theorem Coherent.read_isMissingAccessor_iff (hc : context.Coherent) :
    (∃ error, context.read name = .error error ∧ error.isMissingAccessor = true) ↔
      context.bindings.get? name = none ∨ ∃ factory form roster,
        context.bindings.get? name = some (factory, form) ∧
          context.rosters.get? factory = some roster ∧ roster.declares form = false := by
  cases hb : context.bindings.get? name with
  | none => exact ⟨fun _ => Or.inl rfl, fun _ => ⟨_, read_of_unbound hb, rfl⟩⟩
  | some bound =>
    obtain ⟨factory, form⟩ := bound
    rw [read_of_bound hb]
    constructor
    · rintro ⟨error, he, hm⟩
      obtain ⟨roster, hr, hd⟩ := ((hc.reader_eq_iff.mp he).error_of_bound hb).2.mp hm
      exact Or.inr ⟨factory, form, roster, rfl, hr, hd⟩
    · rintro (hn | ⟨factory', form', roster, he, hr, hd⟩)
      · cases hn
      · cases he
        exact ⟨_, hc.reader_eq_iff.mpr (.undeclared hb hr hd), rfl⟩

end Context

/-! ## Contexts of blocks -/

theorem Block.WellFormed.coherent {σ : Type} {block : Block σ} (h : block.WellFormed)
    (enumeration : Enumeration) : (block.context enumeration).Coherent := by
  refine ⟨fun name factory form hb => ?_, h⟩
  unfold Block.context at hb
  rw [Context.get?_bindings] at hb
  obtain ⟨other, ho, he⟩ := List.exists_of_findSome?_eq_some hb
  obtain ⟨form', -, he⟩ := Option.map_eq_some_iff.mp he
  cases he
  exact SortedMap.mem_keys_iff.mp ((enumeration.perm _).mem_iff.mp ho)

/-- Each reader of a context that a block has left ends in just the ways it is meant to, and reading
by any name is reading by the reader of the form that the name is bound in.  Rosters list their
instances in the order of creation: first those that there were after the beginning of the block.
Their indices increase, if the counter is nowhere back at zero when there are instances. -/
theorem Workshop.run_readers {σ : Type} [RecordStore σ] (enumeration : Enumeration)
    (workshop : Workshop) (store : σ) {attempts : List Attempt} {context : Context}
    (h : (workshop.run enumeration store attempts).1 = .ok context) :
    let reached := fun attempts => after (Block.performAll attempts) (Block.start workshop store)
    (∀ factory roster, context.rosters.get? factory = some roster →
      (∀ before, before <+: attempts →
        ((reached before).bench factory).roster.indices <+: roster.indices) ∧
      ((∀ before, before <+: attempts → ¬((reached before).bench factory).Wrapped factory) →
        roster.indices.Pairwise (· < ·))) ∧
    ∀ name,
      (∀ form result, context.reader name form = result ↔ context.Outcome name form result) ∧
      (∀ missing, context.read name = .error (.noSuchAccessor missing) ↔
        missing = name ∧ context.bindings.get? name = none) ∧
      (∀ factory form, context.bindings.get? name = some (factory, form) →
        context.read name = context.reader name form) ∧
      ((∃ error, context.read name = .error error ∧ error.isMissingAccessor = true) ↔
        context.bindings.get? name = none ∨ ∃ factory form roster,
          context.bindings.get? name = some (factory, form) ∧
            context.rosters.get? factory = some roster ∧ roster.declares form = false) := by
  intro reached
  obtain ⟨final, hp, rfl⟩ := run_eq_ok h
  have hfinal : reached attempts = final := after_of_ok hp
  have hw : final.WellFormed := by
    rw [← hfinal]
    exact Block.wellFormed_kept.performAll attempts (Block.start_wellFormed workshop store)
  have hc := hw.coherent enumeration
  refine ⟨fun factory roster hr => ?_, fun name => ⟨fun _ _ => hc.reader_eq_iff,
    hc.read_missing_iff, fun _ _ => Context.read_of_bound, hc.read_isMissingAccessor_iff⟩⟩
  obtain rfl : (final.bench factory).roster = roster := Block.bench_roster_of_some hr
  rw [← hfinal]
  exact ⟨fun before hb => Block.indices_performAll hb _ factory, fun hn =>
    (Block.inOrder_performAll (Block.start_inOrder workshop store factory) hn).increasing⟩

/-- Hash forms have built one instance more than the record forms have saved. -/
theorem Workshop.run_readers_of_shorter_collection :
    let user : Factory := { name := "user", model := "User" }
    let workshop : Workshop := { catalog := (∅ : Catalog).register user }
    let attempts : List Attempt :=
      [⟨.declare "users_" (.count 2), false⟩, ⟨.declare "users" (.count 1), false⟩,
        ⟨.declare "user" .none, true⟩]
    ∃ context, (workshop.run .listed ({} : Database) attempts).1 = .ok context ∧
      context.Outcome "users" .collection (.error (.notPersisted "users")) ∧
      context.Outcome "user" .singleton (.error (.ambiguousAccess "user" .collection)) ∧
      context.Outcome "users_" .collectionHash (.ok (.hashes [∅, ∅])) ∧
      (context.rosters.get? "user").map (·.indices) = some [0, 1] ∧
      ∀ before, before <+: attempts →
        ((after (Block.performAll before) (Block.start workshop ({} : Database))).bench
          "user").roster.indices <+: [0, 1] := by
  intro user workshop attempts
  have hends : (workshop.run .listed ({} : Database) attempts).1.toOption.map (fun context =>
      (failure? (context.reader "users" .collection), failure? (context.reader "user" .singleton),
        (context.reader "users_" .collectionHash).toOption,
        (context.rosters.get? "user").map (·.indices))) =
      some (some (.notPersisted "users"), some (.ambiguousAccess "user" .collection),
        some (.hashes [∅, ∅]), some [0, 1]) := by
    decide +kernel
  cases hr : (workshop.run .listed ({} : Database) attempts).1 with
  | error error =>
    rw [hr] at hends
    cases hends
  | ok context =>
    rw [hr] at hends
    have hreads := Option.some.inj hends
    rw [Prod.mk.injEq, Prod.mk.injEq, Prod.mk.injEq] at hreads
    obtain ⟨hrecords, hrecord, hhashes, hindices⟩ := hreads
    obtain ⟨hrosters, hreaders⟩ := Workshop.run_readers .listed workshop ({} : Database) hr
    obtain ⟨roster, hroster, hroster'⟩ := Option.map_eq_some_iff.mp hindices
    exact ⟨context, rfl,
      ((hreaders "users").1 _ _).mp (eq_error_of_failure? hrecords),
      ((hreaders "user").1 _ _).mp (eq_error_of_failure? hrecord),
      ((hreaders "users_").1 _ _).mp (eq_ok_of_toOption hhashes), hindices,
      hroster' ▸ (hrosters "user" roster hroster).1⟩

end Fixtures
