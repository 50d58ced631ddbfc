import Fixtures.Proofs.Block.Accessors
import Fixtures.Proofs.Block.ReadBack
import Fixtures.Proofs.Roster.Graft

/-!
# Declarations that commute

Of a block, a declaration reads and changes what belongs to its factory: the roster, the counter
and the table of the model.  Two declarations of factories with different names and models have
nothing of this in common, so they may be carried out in either order (`Block.declare_commutes`).
-/

namespace Fixtures

open DatabaseBacked

/-- In either order, the operations end in the same way and leave the same state. -/
structure CommuteAt {ε σ α β : Type} (one : EStateM ε σ α) (other : EStateM ε σ β) (state : σ) :
    Prop where
  one_ends : ending (one (after other state)) = ending (one state)
  other_ends : ending (other (after one state)) = ending (other state)
  both_leave : after one (after other state) = after other (after one state)

/-- The name is that of a statement which declares the factory. -/
def Workshop.StandsFor (workshop : Workshop) (name : String) (factory : Factory) : Prop :=
  workshop.catalog.factory? factory.name = some factory ∧
    ∃ form, workshop.resolveName name = .ok (factory.name, form)

/-! ## Models of the records of one factory -/

/-- The records at the places of a factory are of the model, and the database is numbered. -/
structure Scene.ModelledAt (name model : String) (scene : Scene (String × Nat)) : Prop where
  numbered : scene.database.Numbered
  model : ∀ position record,
    (scene.instance? (name, position)).bind (·.record) = some record → record.model = model

theorem Scene.Step.modelledAt {catalog : Catalog} {factory : Factory}
    {scene scene' : Scene (String × Nat)} {incident : Incident (String × Nat)}
    (h : Step (fun place factory => catalog.factory? place.1 = some factory) scene incident scene')
    (hf : catalog.factory? factory.name = some factory) (hk : factory.KeepsKeys)
    (hm : scene.ModelledAt factory.name factory.model) :
    scene'.ModelledAt factory.name factory.model := by
  -- The factory is the only one of its name.
  have hone : ∀ other, catalog.factory? factory.name = some other → other = factory :=
    fun other ho => Option.some.inj (ho.symm.trans hf)
  refine ⟨h.numbered hm.numbered, fun position record hr => ?_⟩
  rcases h.model hm.numbered hr (fun other ho => hone other ho ▸ hk) with
    ⟨old, ho, hmodel⟩ | ⟨other, ho, hmodel⟩
  · rw [hmodel]
    exact hm.model position old ho
  · rw [hmodel, hone other ho]

namespace Block

/-- In a run that leaves the catalog, a factory makes records of its model. -/
theorem performAll_modelledAt {σ : Type} [RecordStore σ] [DatabaseBacked σ] {workshop : Workshop}
    {store : σ} {attempts : List Attempt} {factory : Factory}
    (hf : workshop.catalog.factory? factory.name = some factory) (hk : factory.KeepsKeys)
    (hr : (database store).Reachable)
    (hs : ∀ attempt ∈ attempts, attempt.statement.LeavesCatalog) :
    (after (performAll attempts) (start workshop store)).view.ModelledAt factory.name
      factory.model := by
  have ht : Trail (Scene.Step fun place factory => workshop.catalog.factory? place.1 = some factory)
      (start workshop store).view _ _ :=
    seen_trail (Q := fun catalog => catalog = workshop.catalog)
      (fun catalog hc name factory hf _ => hc ▸ hf)
      (fun attempt ha catalog hc => (catalogAfter_of_leaves (hs attempt ha) catalog).trans hc)
      (start_catalog workshop store)
  exact ht.invariant ⟨hr.numbered, fun _ _ h => nomatch h⟩
    fun _ _ _ hm hstep => hstep.modelledAt hf hk hm

/-! ## Blocks on other ground -/

/-- The block on other ground: what belongs to the factory is the block's own. -/
def graft (ground : Block Database) (factory : Factory) (block : Block Database) :
    Block Database :=
  { workshop := { ground.workshop with
      counters := ground.workshop.counters.graft factory.name block.workshop.counters }
    rosters := ground.rosters.graft factory.name block.rosters
    store := ground.store.graft factory.model block.store }

variable {ground block : Block Database} {factory factory' : Factory}

@[simp] theorem graft_self (block : Block Database) (factory : Factory) :
    block.graft factory block = block := by
  unfold graft Counters.graft Database.graft
  rw [SortedMap.graft_self, SortedMap.graft_self, SortedMap.graft_self]

theorem graft_comm (ground block block' : Block Database) (hn : factory.name ≠ factory'.name)
    (hm : factory.model ≠ factory'.model) :
    (ground.graft factory block).graft factory' block' =
      (ground.graft factory' block').graft factory block := by
  unfold graft Counters.graft Database.graft
  dsimp only
  rw [SortedMap.graft_comm _ _ _ hn, SortedMap.graft_comm _ _ _ hn, SortedMap.graft_comm _ _ _ hm]

theorem bench_graft (ground block : Block Database) (factory : Factory) :
    (ground.graft factory block).bench factory.name =
      (ground.bench factory.name).graft factory (block.bench factory.name) := by
  unfold Block.bench Bench.graft graft
  rw [SortedMap.get?_graft, if_pos rfl]

theorem setBench_graft (ground block : Block Database) (factory : Factory)
    (bench : Bench Database) :
    (ground.graft factory block).setBench factory.name
        ((ground.bench factory.name).graft factory bench) =
      ground.graft factory (block.setBench factory.name bench) := by
  unfold setBench Bench.graft graft
  rw [SortedMap.graft_insert]
  rfl

/-- The blocks differ in rosters, counters and tables at most. -/
structure Alike (ground block : Block Database) : Prop where
  catalog : block.workshop.catalog = ground.workshop.catalog
  settings : block.workshop.settings = ground.workshop.settings
  store : ground.store.Alike block.store

theorem alike_refl (block : Block Database) : block.Alike block :=
  ⟨rfl, rfl, rfl, rfl⟩

theorem alike_graft (ground block : Block Database) (factory : Factory) :
    (ground.graft factory block).Alike ground :=
  ⟨rfl, rfl, rfl, rfl⟩

/-- The name stands for a form of the factory, whose hook leaves keys alone, and the roster has
records of its model. -/
structure Ready (name : String) (factory : Factory) (block : Block Database) : Prop where
  named : block.workshop.StandsFor name factory
  keepsKeys : factory.KeepsKeys
  records : block.view.ModelledAt factory.name factory.model

variable {name : String}

theorem Ready.fits (h : block.Ready name factory) (ha : ground.Alike block) :
    Bench.Fits (ground.bench factory.name) factory (block.bench factory.name) := by
  refine ⟨h.records.numbered, ha.store, fun position item hi record hr => ?_⟩
  apply h.records.model position record
  rw [← record?_eq_view, ← record?_bench]
  unfold Roster.record?
  rw [hi]
  exact hr

/-- A declaration does not notice on what ground it works. -/
theorem declare_graft (h : block.Ready name factory) (ha : ground.Alike block)
    (arguments : Arguments) :
    UnnoticedAt (fun _ => True) (ground.graft factory) (declare name arguments) block := by
  refine ⟨?_, trivial⟩
  obtain ⟨hf, form, hr⟩ := h.named
  have hf' := Catalog.factory_eq_ok_iff.mpr hf
  have hcatalog : (ground.graft factory block).workshop.catalog = block.workshop.catalog :=
    ha.catalog.symm
  have hsettings : (ground.graft factory block).workshop.settings = block.workshop.settings :=
    ha.settings.symm
  have hr' : (ground.graft factory block).workshop.resolveName name = .ok (factory.name, form) :=
    (Workshop.resolveName_congr hcatalog hsettings name).trans hr
  have hd := (Bench.declare_graft h.keepsKeys name form arguments _ (h.fits ha)).result
  rw [declare_eq, declare_eq, hr, hr', hcatalog]
  dsimp only
  rw [hf', bench_graft]
  dsimp only
  rw [hd]
  cases Bench.declare factory name form arguments (block.bench factory.name) with
  | ok positions bench => exact congrArg _ (setBench_graft ground block factory bench)
  | error error bench => exact congrArg _ (setBench_graft ground block factory bench)

/-- What a declaration leaves is the block it found, but for what belongs to the factory. -/
theorem after_declare_graft (h : block.Ready name factory) (arguments : Arguments) :
    after (declare name arguments) block =
      block.graft factory (after (declare name arguments) block) := by
  have hd := (declare_graft h (alike_refl block) arguments).after
  rwa [graft_self] at hd

theorem after_declare_alike (h : block.Ready name factory) (arguments : Arguments) :
    (after (declare name arguments) block).Alike block := by
  rw [after_declare_graft h]
  exact alike_graft block _ factory

/-! ## Two declarations -/

section

variable {first second : String}

/-- A declaration leaves what belongs to another factory. -/
theorem graft_after_declare (h : block.Ready second factory') (hn : factory.name ≠ factory'.name)
    (hm : factory.model ≠ factory'.model) (arguments : Arguments) :
    (after (declare second arguments) block).graft factory block =
      after (declare second arguments) block := by
  have hd := after_declare_graft h arguments
  generalize after (declare second arguments) block = left at hd
  calc left.graft factory block
    _ = (block.graft factory' left).graft factory block := by rw [← hd]
    _ = (block.graft factory block).graft factory' left := graft_comm _ _ _ hn.symm hm.symm
    _ = left := by rw [graft_self, ← hd]

/-- After a declaration of another factory, a declaration ends as it would have without, and leaves
the same of what belongs to its factory. -/
theorem declare_after_declare (h : block.Ready first factory) (h' : block.Ready second factory')
    (hn : factory.name ≠ factory'.name) (hm : factory.model ≠ factory'.model)
    (arguments arguments' : Arguments) :
    let left := after (declare second arguments') block
    ending (declare first arguments left) = ending (declare first arguments block) ∧
      after (declare first arguments) left =
        left.graft factory (after (declare first arguments) block) := by
  intro left
  have hu := declare_graft h (after_declare_alike h' arguments') arguments
  have hleft : left.graft factory block = left := graft_after_declare h' hn hm arguments'
  have he := hu.ending
  have ha := hu.after
  rw [hleft] at he ha
  exact ⟨he, ha⟩

theorem declare_commuteAt (h : block.Ready first factory) (h' : block.Ready second factory')
    (hn : factory.name ≠ factory'.name) (hm : factory.model ≠ factory'.model)
    (arguments arguments' : Arguments) :
    CommuteAt (declare first arguments) (declare second arguments') block := by
  obtain ⟨he, ha⟩ := declare_after_declare h h' hn hm arguments arguments'
  obtain ⟨he', ha'⟩ := declare_after_declare h' h hn.symm hm.symm arguments' arguments
  refine ⟨he, he', ?_⟩
  rw [ha, ha']
  have hd := after_declare_graft h arguments
  have hd' := after_declare_graft h' arguments'
  generalize after (declare first arguments) block = left at hd
  generalize after (declare second arguments') block = left' at hd'
  calc left'.graft factory left
    _ = (block.graft factory' left').graft factory left := by rw [← hd']
    _ = (block.graft factory left).graft factory' left' := graft_comm _ _ _ hn.symm hm.symm
    _ = left.graft factory' left' := by rw [← hd]

end

/-- Where the catalog is left alone, names stand for what they stood for. -/
theorem performAll_standsFor {workshop : Workshop} {store : Database} {attempts : List Attempt}
    (h : workshop.StandsFor name factory)
    (hs : ∀ attempt ∈ attempts, attempt.statement.LeavesCatalog) :
    (after (performAll attempts) (start workshop store)).workshop.StandsFor name factory := by
  have hcatalog : (after (performAll attempts) (start workshop store)).workshop.catalog =
      workshop.catalog := performAll_catalog hs
  have hsettings := (settings_kept _).performAll attempts (start_settings workshop store)
  obtain ⟨hf, form, hr⟩ := h
  exact ⟨hcatalog ▸ hf, form, (Workshop.resolveName_congr hcatalog hsettings name).trans hr⟩

theorem performAll_ready {workshop : Workshop} {store : Database} {attempts : List Attempt}
    (h : workshop.StandsFor name factory) (hk : factory.KeepsKeys) (hr : store.Reachable)
    (hs : ∀ attempt ∈ attempts, attempt.statement.LeavesCatalog) :
    (after (performAll attempts) (start workshop store)).Ready name factory :=
  ⟨performAll_standsFor h hs, hk, performAll_modelledAt h.1 hk hr hs⟩

/-- Declarations of two factories with different names and models commute, in whatever state a run
has left the block that does not change the catalog: in either order each of them ends in the same
way, succeeding or not, and both leave the same rosters, counters and rows. -/
theorem declare_commutes (workshop : Workshop) (store : Database) (attempts : List Attempt)
    (first second : String) (arguments arguments' : Arguments) (factory factory' : Factory)
    (hr : store.Reachable) (hs : ∀ attempt ∈ attempts, attempt.statement.LeavesCatalog)
    (h : workshop.StandsFor first factory) (h' : workshop.StandsFor second factory')
    (hn : factory.name ≠ factory'.name) (hm : factory.model ≠ factory'.model)
    (hk : factory.KeepsKeys) (hk' : factory'.KeepsKeys) :
    CommuteAt (declare first arguments) (declare second arguments')
      (after (performAll attempts) (start workshop store)) :=
  declare_commuteAt (performAll_ready h hk hr hs) (performAll_ready h' hk' hr hs) hn hm arguments
    arguments'

/-- Both declarations fail halfway: the second user is refused for its team, and the second post for
want of a title, after the hook has had the first one stored again. -/
theorem declare_commutes_of_refused :
    let user : Factory :=
      ({ name := "user", model := "User" } : Factory).withField "team" (.constant (.text "red"))
    let post : Factory := ({ name := "post", model := "Post" } : Factory).withAfterCreate
      fun record => { record with attributes := record.attributes.insert "slug" (.int record.id) }
    let workshop : Workshop := { catalog := ((∅ : Catalog).register user).register post }
    let store : Database := { unique := [("User", "team")], required := [("Post", "title")] }
    let block := after
      (performAll [⟨.declare "user" .none, false⟩, ⟨.declare "posts" (.count 1), true⟩])
      (start workshop store)
    let users : EStateM Error (Block Database) Ref := declare "users" (.count 2)
    let posts : EStateM Error (Block Database) Ref :=
      declare "posts" (.overrides [(∅ : AttributeMap).insert "title" (.text "a"), ∅])
    Ends (users block) (fun _ _ => False)
        (fun error left => error = .store (.taken "User" "team") ∧ left.store.count "User" = 1) ∧
      Ends (posts block) (fun _ _ => False)
        (fun error left => error = .store (.blank "Post" "title") ∧
          (left.record? "post" 1).bind (·.int? "slug") = some 1) ∧
      CommuteAt users posts block := by
  intro user post workshop store block users posts
  refine ⟨by decide +kernel, by decide +kernel, ?_⟩
  have hnames : (workshop.resolveName "users").toOption = some ("user", .collection) ∧
      (workshop.resolveName "posts").toOption = some ("post", .collection) := by decide +kernel
  have huser : workshop.catalog.factory? "user" = some user := by
    show (((∅ : SortedMap Factory).insert "user" user).insert "post" post).get? "user" = some user
    rw [SortedMap.get?_insert_of_ne _ _ (by decide), SortedMap.get?_insert_self]
  have hpost : workshop.catalog.factory? "post" = some post := SortedMap.get?_insert_self ..
  exact declare_commutes workshop store _ "users" "posts" (.count 2) _ user post
    (Database.Reachable.start.constrain _ _)
    (fun attempt ha => by
      rw [List.mem_cons, List.mem_singleton] at ha
      rcases ha with rfl | rfl <;> trivial)
    ⟨huser, .collection, eq_ok_of_toOption hnames.1⟩
    ⟨hpost, .collection, eq_ok_of_toOption hnames.2⟩
    (by decide) (by decide) (fun _ hh => by cases hh)
    (fun hook hh => by
      cases hh
      exact fun _ => ⟨rfl, rfl⟩)

end Block

end Fixtures
