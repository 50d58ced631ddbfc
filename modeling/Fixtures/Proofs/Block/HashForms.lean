import Fixtures.Proofs.Block.HashWrites
import Fixtures.Proofs.Context.Bindings

/-!
# Hash forms create no rows

A hash form builds instances and saves none of them, so a block that declares nothing but hash forms
never has a record, and has no reason to turn to the store.  Such a block is followed on two benches
side by side, with different stores: it ends in the same way on both, and leaves either store as it
was (`Block.hash_forms_add_no_rows`).
-/

namespace Fixtures

open DatabaseBacked

/-- No instance has a record. -/
def Roster.Unsaved (roster : Roster) : Prop :=
  ∀ position item, roster.instance? position = some item → item.record = none

namespace Roster.Unsaved

variable {roster roster' : Roster}

theorem of_instances (h : roster.Unsaved) (hi : roster'.instances = roster.instances) :
    roster'.Unsaved := by
  intro position item hp
  unfold instance? at hp
  rw [hi] at hp
  exact h position item hp

theorem push (h : roster.Unsaved) {item : Instance} (hr : item.record = none) :
    (roster.push item).Unsaved := by
  intro position found hp
  rw [instance?_push] at hp
  split at hp
  · cases hp
    exact hr
  · exact h position found hp

theorem setInstance (h : roster.Unsaved) {position : Nat} {old item : Instance}
    (hi : roster.instance? position = some old) (hr : item.record = none) :
    (roster.setInstance position item).Unsaved := by
  intro p found hp
  rw [instance?_setInstance hi] at hp
  split at hp
  · cases hp
    exact hr
  · exact h p found hp

end Roster.Unsaved

/-! ## Two benches side by side -/

namespace Bench

variable {σ τ : Type}

/-- The benches have these stores, differ in nothing else, and have no records. -/
structure Beside (store : σ) (store' : τ) (bench : Bench σ) (bench' : Bench τ) : Prop where
  roster : bench'.roster = bench.roster
  counters : bench'.counters = bench.counters
  left : bench.store = store
  right : bench'.store = store'
  unsaved : bench.roster.Unsaved

/-- On benches side by side the operations end alike, and leave benches side by side. -/
def Blind {α : Type} (operation : EStateM Error (Bench σ) α)
    (operation' : EStateM Error (Bench τ) α) : Prop :=
  ∀ store store' bench bench', Beside store store' bench bench' →
    Paired (Beside store store') (operation bench) (operation' bench')

theorem Blind.throw {α : Type} (error : Error) :
    Blind (throw error : EStateM Error (Bench σ) α)
      (MonadExcept.throw error : EStateM Error (Bench τ) α) :=
  fun _ _ _ _ h => Paired.error error h

theorem Blind.build (factory : Factory) (overrides : AttributeMap) :
    Blind (build (σ := σ) factory overrides) (build (σ := τ) factory overrides) := by
  intro store store' bench bench' h
  rw [build_eq, build_eq, h.counters, h.roster]
  cases Counters.upcoming factory bench.counters with
  | error error => exact Paired.error error ⟨rfl, rfl, h.left, h.right, h.unsaved⟩
  | ok attributes => exact Paired.ok () ⟨rfl, rfl, h.left, h.right, h.unsaved.push rfl⟩

theorem Blind.mark {change : Roster → Roster} (hc : Mark change) :
    Blind (modifyRoster (σ := σ) change) (modifyRoster (σ := τ) change) := by
  intro store store' bench bench' h
  exact Paired.ok () ⟨congrArg change h.roster, h.counters, h.left, h.right,
    h.unsaved.of_instances (hc.instances bench.roster)⟩

variable [RecordStore σ] [RecordStore τ]

/-- An instance without a record takes overrides without turning to the store. -/
theorem override_read_of_none {item : Instance} (hr : item.record = none)
    (overrides : AttributeMap) (store : σ) :
    (do Instance.override overrides; return (← get).1.attributes :
      EStateM Error (Instance × σ) AttributeMap) (item, store) =
        .ok (item.attributes.overlay overrides)
          ({ item.revised overrides with overrides := item.overrides.overlay overrides },
            store) := by
  have ho : Instance.override overrides (item, store) = .ok () _ :=
    Instance.revise_of_none overrides store hr
  rw [bind_of_ok ho]
  rfl

theorem Blind.override (position : Nat) (overrides : AttributeMap) :
    Blind (onRoster (σ := σ) (Roster.override position overrides))
      (onRoster (σ := τ) (Roster.override position overrides)) := by
  intro store store' bench bench' h
  unfold Roster.override
  cases hi : bench.roster.instance? position with
  | none =>
    rw [onInstance_of_none _ hi, onInstance_of_none _ (by rw [h.roster]; exact hi), h.roster]
    exact Paired.error _ h
  | some item =>
    have hr := h.unsaved position item hi
    rw [onInstance_of_some _ hi, onInstance_of_some _ (by rw [h.roster]; exact hi),
      override_read_of_none hr, override_read_of_none hr]
    refine Paired.ok _ ⟨?_, h.counters, h.left, h.right, h.unsaved.setInstance hi hr⟩
    unfold withInstance
    rw [h.roster]

/-- Where nothing is saved, no part of a declaration looks at the store. -/
theorem blind_parallel (factory : Factory) :
    Parallel (σ := σ) (τ := τ) factory (fun _ => True) False fun _ operation operation' =>
      Blind operation operation' where
  pure answer _ _ _ _ h := Paired.ok answer h
  bind hf hn store store' bench bench' h :=
    (hf store store' bench bench' h).bind fun answer left left' hl =>
      hn answer store store' left left' hl
  read _ _ hp store store' bench bench' h :=
    hp bench bench' h.roster.symm store store' bench bench' h
  override position overrides _ := Blind.override position overrides
  save h := h.elim
  build overrides _ := Blind.build factory overrides
  mark := Blind.mark

theorem declare_blind (factory : Factory) (name : String) {form : Form} (arguments : Arguments)
    (hf : form.isHash = true) :
    Blind (declare (σ := σ) factory name form arguments)
      (declare (σ := τ) factory name form arguments) :=
  (blind_parallel factory).declare (fun error _ => Blind.throw error) name (fun _ _ => trivial)
    fun hn => by
      rw [hf] at hn
      cases hn

end Bench

/-! ## Two blocks side by side -/

/-- The statement declares a name, and the name stands for a hash form if for anything. -/
def Workshop.DeclaresHash (workshop : Workshop) (statement : Statement) : Prop :=
  ∃ name arguments, statement = .declare name arguments ∧
    ∀ factory form, workshop.resolveName name = .ok (factory, form) → form.isHash = true

namespace Block

variable {σ τ : Type}

/-- The blocks of a workshop have these stores, differ in nothing else, and have no records. -/
structure Beside (ground : Workshop) (store : σ) (store' : τ) (block : Block σ)
    (block' : Block τ) : Prop where
  workshop : block'.workshop = block.workshop
  rosters : block'.rosters = block.rosters
  catalog : block.workshop.catalog = ground.catalog
  settings : block.workshop.settings = ground.settings
  left : block.store = store
  right : block'.store = store'
  unsaved : ∀ name roster, block.rosters.get? name = some roster → roster.Unsaved

variable {workshop : Workshop} {store : σ} {store' : τ} {block : Block σ} {block' : Block τ}

theorem Beside.bench (h : Beside workshop store store' block block') (name : String) :
    Bench.Beside store store' (block.bench name) (block'.bench name) := by
  refine ⟨?_, ?_, h.left, h.right, ?_⟩
  · unfold Block.bench
    rw [h.rosters]
  · unfold Block.bench
    rw [h.workshop]
  · unfold Block.bench
    cases hr : block.rosters.get? name with
    | none => exact fun _ _ hi => nomatch hi
    | some roster => exact h.unsaved name roster hr

theorem Beside.setBench (h : Beside workshop store store' block block') (name : String)
    {bench : Bench σ} {bench' : Bench τ} (hb : Bench.Beside store store' bench bench') :
    Beside workshop store store' (block.setBench name bench) (block'.setBench name bench') := by
  refine ⟨?_, ?_, h.catalog, h.settings, hb.left, hb.right, fun other roster hr => ?_⟩
  · unfold Block.setBench
    rw [h.workshop, hb.counters]
  · unfold Block.setBench
    rw [h.rosters, hb.roster]
  · change (block.rosters.insert name bench.roster).get? other = some roster at hr
    rw [SortedMap.get?_insert] at hr
    split at hr
    · cases hr
      exact hb.unsaved
    · exact h.unsaved other roster hr

theorem start_beside (workshop : Workshop) (hr : workshop.settings.resetsCounters = true)
    (counters : Counters) (store : σ) (store' : τ) :
    Beside workshop store store' (start workshop store)
      (start { workshop with counters } store') := by
  refine ⟨?_, rfl, start_catalog workshop store, start_settings workshop store, rfl, rfl, nofun⟩
  unfold start Workshop.startingBlock
  rw [if_pos hr, if_pos hr]

variable [RecordStore σ] [RecordStore τ]

theorem Beside.declare (h : Beside workshop store store' block block') {name : String}
    (arguments : Arguments)
    (hf : ∀ factory form, workshop.resolveName name = .ok (factory, form) → form.isHash = true) :
    Paired (Beside workshop store store') (declare name arguments block)
      (declare name arguments block') := by
  have hname := Workshop.resolveName_congr h.catalog h.settings name
  rw [declare_eq, declare_eq, h.workshop, hname]
  cases hr : workshop.resolveName name with
  | error error => exact Paired.error error h
  | ok resolved =>
    dsimp only
    cases block.workshop.catalog.factory resolved.1 with
    | error error => exact Paired.error error h
    | ok factory =>
      have hb := Bench.declare_blind (σ := σ) (τ := τ) factory name arguments
        (hf resolved.1 resolved.2 hr) store store' _ _ (h.bench resolved.1)
      dsimp only
      generalize Bench.declare factory name resolved.2 arguments (block.bench resolved.1) = result
        at hb
      generalize Bench.declare factory name resolved.2 arguments (block'.bench resolved.1) = result'
        at hb
      cases hb with
      | ok positions hb => exact Paired.ok _ (h.setBench resolved.1 hb)
      | error error hb => exact Paired.error error (h.setBench resolved.1 hb)

theorem Beside.performAll (h : Beside workshop store store' block block') {attempts : List Attempt}
    (hs : ∀ attempt ∈ attempts, workshop.DeclaresHash attempt.statement) :
    Paired (Beside workshop store store') (performAll attempts block)
      (performAll attempts block') := by
  induction attempts generalizing block block' with
  | nil => exact Paired.ok () h
  | cons attempt rest ih =>
    obtain ⟨name, arguments, hstatement, hf⟩ := hs attempt List.mem_cons_self
    have hrest : ∀ attempt ∈ rest, workshop.DeclaresHash attempt.statement :=
      fun attempt ha => hs attempt (List.mem_cons_of_mem _ ha)
    have hp : Paired (Beside workshop store store') (perform attempt.statement block)
        (perform attempt.statement block') := by
      rw [hstatement]
      exact (h.declare arguments hf).bind fun ref _ _ hl => Paired.ok (Outcome.declared ref) hl
    rw [performAll_cons, performAll_cons]
    generalize perform attempt.statement block = result at hp
    generalize perform attempt.statement block' = result' at hp
    -- Both blocks go on, or both end here.
    cases hp with
    | ok outcome hl => exact ih hl hrest
    | error error hl =>
      dsimp only
      split
      · exact ih hl hrest
      · exact Paired.error error hl

/-- The two runs take the factories of their rosters in orders of their own. -/
theorem run_beside (enumeration enumeration' : Enumeration) (workshop : Workshop)
    (hr : workshop.settings.resetsCounters = true) (counters : Counters) (store : σ) (store' : τ)
    {attempts : List Attempt}
    (hs : ∀ attempt ∈ attempts, workshop.DeclaresHash attempt.statement) :
    (workshop.run enumeration store attempts).2.2 = store ∧
      ({ workshop with counters }.run enumeration' store' attempts).1 =
        (workshop.run enumeration store attempts).1.map fun context =>
          Context.ofRosters enumeration' workshop.settings context.rosters := by
  have hp := (start_beside workshop hr counters store store').performAll hs
  unfold Workshop.run
  generalize performAll attempts (start workshop store) = result at hp ⊢
  generalize performAll attempts (start { workshop with counters } store') = result' at hp ⊢
  cases hp with
  | @ok _ block block' hl =>
    refine ⟨hl.left, ?_⟩
    show Except.ok (Context.ofRosters enumeration' block'.workshop.settings block'.rosters) =
      Except.ok (Context.ofRosters enumeration' workshop.settings block.rosters)
    rw [hl.workshop, hl.rosters, hl.settings]
  | error error hl => exact ⟨hl.left, rfl⟩

/-- A run is beside itself, so it has bound the names of its rosters in its own order. -/
theorem run_rebound (enumeration : Enumeration) (workshop : Workshop)
    (hr : workshop.settings.resetsCounters = true) (store : σ) {attempts : List Attempt}
    (hs : ∀ attempt ∈ attempts, workshop.DeclaresHash attempt.statement) :
    let run := workshop.run enumeration store attempts
    run.1.map (fun context =>
      Context.ofRosters enumeration workshop.settings context.rosters) = run.1 :=
  (run_beside enumeration enumeration workshop hr workshop.counters store store hs).2.symm

/-- A hash form inserts nothing, and saves no instance: whatever it ends in, it calls the store only
to replace the records of instances that it works on and was given overrides for.  A block of hash
forms leaves the store untouched if it starts with fresh counters, and what it answers depends
neither on the store nor on the counters before.  It depends on the order of the factories at most
in which of them has a name that they share. -/
theorem hash_forms_add_no_rows {σ : Type} [RecordStore σ] [DatabaseBacked σ] :
    (∀ (block : Block (Journal σ)) name arguments factory form,
      block.workshop.resolveName name = .ok (factory, form) → form.isHash = true →
        let left := after (declare name arguments) block
        (∃ added, left.store.calls = block.store.calls ++ added ∧
          ∀ call ∈ added, ∃ position overrides record outcome,
            (position, some overrides) ∈ (block.bench factory).roster.claims form arguments ∧
            block.record? factory position = some record ∧
            call = .replace record.model record.id (record.attributes.overlay overrides) outcome) ∧
        (∀ model, ((database left.store).all model).map (·.id) =
          ((database block.store).all model).map (·.id)) ∧
        ∀ name position, (left.record? name position).isSome =
          (block.record? name position).isSome) ∧
    ∀ (workshop : Workshop) (attempts : List Attempt), workshop.settings.resetsCounters = true →
      (∀ attempt ∈ attempts, workshop.DeclaresHash attempt.statement) →
        ∀ {τ τ' : Type} [RecordStore τ] [RecordStore τ'] (store : τ) (store' : τ') counters
          (enumeration enumeration' : Enumeration),
          let run := workshop.run enumeration store attempts
          let answer' := fun order => ({ workshop with counters }.run order store' attempts).1
          run.2.2 = store ∧
          answer' enumeration = run.1 ∧
          (answer' enumeration').map (·.rosters) = run.1.map (·.rosters) ∧
          ∀ context, run.1 = .ok context →
            Context.Unshared workshop.settings context.rosters.keys →
              answer' enumeration' = .ok context := by
  refine ⟨?_, fun workshop attempts hr hs _ _ _ _ store store' counters enumeration
    enumeration' => ?_⟩
  · intro block name arguments factory form hr hf left
    obtain ⟨writes, hdone, hstore, hsaved⟩ := declare_updated arguments hr hf
    refine ⟨?_, fun model => ?_, hsaved⟩
    · obtain ⟨added, hcalls, hadded⟩ := Journal.calls_replaceAll writes block.store
      refine ⟨added, (congrArg Journal.calls hstore).trans hcalls, fun call hc => ?_⟩
      obtain ⟨write, hw, outcome, rfl⟩ := hadded call hc
      obtain ⟨position, overrides, hclaim, record, hrecord, rfl⟩ :=
        Roster.mem_updates (hdone.subset hw)
      rw [record?_bench] at hrecord
      exact ⟨position, overrides, record, outcome, hclaim, hrecord, rfl⟩
    · rw [show left.store = replaceAll writes block.store from hstore]
      exact ids_replaceAll writes block.store model
  · have hbeside := fun order =>
      run_beside enumeration order workshop hr counters store store' hs
    intro run answer'
    have hanswer : ∀ order, answer' order = run.1.map fun context =>
        Context.ofRosters order workshop.settings context.rosters := fun order =>
      (hbeside order).2
    have hrebound : run.1.map (fun context =>
        Context.ofRosters enumeration workshop.settings context.rosters) = run.1 :=
      run_rebound enumeration workshop hr store hs
    refine ⟨(hbeside enumeration).1, (hanswer enumeration).trans hrebound, ?_,
      fun context hrun hu => ?_⟩
    · rw [hanswer]
      cases run.1 <;> rfl
    · rw [hrun] at hrebound
      rw [hanswer, hrun]
      refine Eq.trans ?_ hrebound
      exact congrArg Except.ok (Context.ofRosters_eq_of_unshared enumeration' enumeration hu)

/-- A saved user takes overrides as a hash, and users and posts are built that nobody saves. -/
theorem hash_forms_add_no_rows_of_saved :
    let user : Factory := { name := "user", model := "User" }
    let post : Factory := { name := "post", model := "Post" }
    let workshop : Workshop := { catalog := ((∅ : Catalog).register user).register post }
    let store : Journal Database := { store := {} }
    let named : AttributeMap := (∅ : AttributeMap).insert "name" (.text "Ann")
    let block := after (performAll [⟨.declare "user" .none, false⟩]) (start workshop store)
    let left := after (declare "user_" (.overrides [named])) block
    let attempts : List Attempt :=
      [⟨.declare "users_" (.count 2), false⟩, ⟨.declare "post_" .none, true⟩]
    let reversed : Enumeration := { order := List.reverse, perm := List.reverse_perm }
    let run := workshop.run .listed store attempts
    let answer' := fun order =>
      ({ workshop with counters := Counters.advance {} "user" 5 }.run order ({} : Database)
        attempts).1
    left.store.calls.length = 2 ∧
      (∃ added, left.store.calls = block.store.calls ++ added ∧
        ∀ call ∈ added, ∃ position overrides record outcome,
          (position, some overrides) ∈
            (block.bench "user").roster.claims .singletonHash (.overrides [named]) ∧
          block.record? "user" position = some record ∧
          call = .replace record.model record.id (record.attributes.overlay overrides) outcome) ∧
      run.2.2 = store ∧ answer' .listed = run.1 ∧ answer' reversed = run.1 := by
  intro user post workshop store named block left attempts reversed run answer'
  obtain ⟨hforms, hruns⟩ := hash_forms_add_no_rows (σ := Database)
  have hsingle : block.workshop.resolveName "user_" = .ok ("user", .singletonHash) :=
    eq_ok_of_toOption (by decide +kernel)
  have hnames : ∀ name factory form,
      (workshop.resolveName name).toOption = some (factory, form) → form.isHash = true →
        ∀ arguments, workshop.DeclaresHash (.declare name arguments) := by
    intro name factory form hr hf arguments
    refine ⟨name, arguments, rfl, fun factory' form' hr' => ?_⟩
    cases (eq_ok_of_toOption hr).symm.trans hr'
    exact hf
  have hdeclares : ∀ attempt ∈ attempts, workshop.DeclaresHash attempt.statement := by
    intro attempt ha
    rw [List.mem_cons, List.mem_singleton] at ha
    rcases ha with rfl | rfl
    · exact hnames "users_" "user" .collectionHash (by decide +kernel) rfl _
    · exact hnames "post_" "post" .singletonHash (by decide +kernel) rfl _
  obtain ⟨hstore, hsame, -, hall⟩ := hruns workshop attempts rfl hdeclares store ({} : Database)
    (Counters.advance {} "user" 5) .listed reversed
  have hrosters : (run.1.map (·.rosters.keys)).toOption = some ["post", "user"] := by
    decide +kernel
  cases hrun : run.1 with
  | error error =>
    rw [hrun] at hrosters
    cases hrosters
  | ok context =>
    rw [hrun] at hrosters hsame
    have hkeys : context.rosters.keys = ["post", "user"] := Option.some.inj hrosters
    refine ⟨by decide +kernel, (hforms block "user_" _ "user" .singletonHash hsingle rfl).1,
      hstore, hsame, hall context hrun ?_⟩
    intro factory hf other ho hne form form'
    rw [hkeys, List.mem_cons, List.mem_singleton] at hf ho
    rcases hf with rfl | rfl <;> rcases ho with rfl | rfl
    · exact absurd rfl hne
    · cases form <;> cases form' <;> decide +kernel
    · cases form <;> cases form' <;> decide +kernel
    · exact absurd rfl hne

end Block

end Fixtures
