import Fixtures.Proofs.Roster.Step
import Fixtures.Run

/-!
# Steps of a block

Declarations and links, failing or not, change a block in steps of three kinds (`Block.Step`): a
step of a declaration on the bench of its factory, a key given to an instance, or a joining record.
A whole run is made of such steps and of changes of the catalog, so what all of these keep holds in
every state that a run goes through (`performAll_induction`).  A property of operations that the
parts of a link have, and that passes to what is composed of them (`Block.Compositional`), is a
property of every link, and of every statement if declarations have it too.
-/

namespace Fixtures

open Relation

theorem Catalog.factory_eq_ok_iff {catalog : Catalog} {name : String} {factory : Factory} :
    catalog.factory name = .ok factory ↔ catalog.factory? name = some factory := by
  unfold Catalog.factory
  cases catalog.factory? name <;> simp

/-- Names stand for factories of the catalog only. -/
theorem Catalog.factory?_of_resolveName {catalog : Catalog} {settings : Settings}
    {name factory : String} {form : Form}
    (h : catalog.resolveName settings name = .ok (factory, form)) :
    ∃ found, catalog.factory? factory = some found := by
  unfold resolveName at h
  split at h
  · rename_i hs
    cases h
    exact Option.isSome_iff_exists.mp hs
  · split at h
    · rename_i found hfound
      cases h
      obtain ⟨other, hmem, ho⟩ := List.exists_of_findSome?_eq_some hfound
      obtain ⟨_, -, he⟩ := Option.map_eq_some_iff.mp ho
      cases he
      exact SortedMap.mem_keys_iff.mp hmem
    · cases h

/-- What a name stands for depends on the catalog and the settings alone. -/
theorem Workshop.resolveName_congr {workshop workshop' : Workshop}
    (hc : workshop'.catalog = workshop.catalog) (hs : workshop'.settings = workshop.settings)
    (name : String) : workshop'.resolveName name = workshop.resolveName name := by
  unfold resolveName
  rw [hc, hs]

namespace Block

variable {σ : Type}

/-! ## Benches of a block -/

theorem start_catalog (workshop : Workshop) (store : σ) :
    (start workshop store).workshop.catalog = workshop.catalog := by
  unfold start Workshop.startingBlock
  split <;> rfl

theorem start_settings (workshop : Workshop) (store : σ) :
    (start workshop store).workshop.settings = workshop.settings := by
  unfold start Workshop.startingBlock
  split <;> rfl

@[simp] theorem bench_setBench (block : Block σ) (name : String) (bench : Bench σ) :
    (block.setBench name bench).bench name = bench := by
  unfold Block.bench setBench
  rw [SortedMap.get?_insert_self]
  rfl

theorem bench_roster_of_some {block : Block σ} {name : String} {roster : Roster}
    (h : block.rosters.get? name = some roster) :
    (block.bench name).roster = roster := by
  unfold bench
  rw [h]
  rfl

theorem bench_setBench_of_ne (block : Block σ) {name other : String} (bench : Bench σ)
    (h : other ≠ name) : ((block.setBench name bench).bench other).roster =
      (block.bench other).roster := by
  unfold setBench Block.bench
  dsimp only
  rw [SortedMap.get?_insert_of_ne _ _ h]

@[simp] theorem setBench_setBench (block : Block σ) (name : String) (bench bench' : Bench σ) :
    (block.setBench name bench).setBench name bench' = block.setBench name bench' := by
  unfold setBench
  rw [SortedMap.insert_insert]

def withInstance (block : Block σ) (name : String) (roster : Roster) (position : Nat)
    (left : Instance × σ) : Block σ :=
  { block with
    rosters := block.rosters.insert name (roster.setInstance position left.1)
    store := left.2 }

theorem withInstance_eq_setBench {block : Block σ} {name : String} {roster : Roster}
    (hr : block.rosters.get? name = some roster) (position : Nat) (left : Instance × σ) :
    block.withInstance name roster position left =
      block.setBench name ((block.bench name).withInstance position left) := by
  unfold withInstance setBench Bench.withInstance bench
  rw [hr]
  rfl

variable [RecordStore σ]

/-! ## Statements as functions of the block -/

/-- A declaration resolves its name, and then works on the bench of the factory found. -/
theorem declare_eq (name : String) (arguments : Arguments) (block : Block σ) :
    declare name arguments block =
      match block.workshop.resolveName name with
      | .error error => .error error block
      | .ok (factoryName, form) =>
        match block.workshop.catalog.factory factoryName with
        | .error error => .error error block
        | .ok factory =>
          match Bench.declare factory name form arguments (block.bench factoryName) with
          | .ok positions bench =>
            .ok { factory := factoryName, form, positions } (block.setBench factoryName bench)
          | .error error bench => .error error (block.setBench factoryName bench) := by
  show (answer (block.workshop.resolveName name) >>= _) block = _
  cases hr : block.workshop.resolveName name with
  | error error => rfl
  | ok resolved =>
    show (answer (block.workshop.catalog.factory resolved.1) >>= _) block = _
    dsimp only
    cases hf : block.workshop.catalog.factory resolved.1 with
    | error error => rfl
    | ok factory =>
      show (onBench resolved.1 (Bench.declare factory name resolved.2 arguments) >>= _) block = _
      dsimp only
      cases hd : Bench.declare factory name resolved.2 arguments (block.bench resolved.1) with
      | error error bench =>
        apply bind_of_error
        unfold onBench
        rw [hd]
      | ok positions bench =>
        have ho : onBench resolved.1 (Bench.declare factory name resolved.2 arguments) block =
            .ok positions (block.setBench resolved.1 bench) := by
          unfold onBench
          rw [hd]
        rw [bind_of_ok ho]
        rfl

theorem declare_eq_ok {name : String} {arguments : Arguments} {block left : Block σ} {ref : Ref}
    (h : declare name arguments block = .ok ref left) :
    ∃ factory bench, block.workshop.resolveName name = .ok (ref.factory, ref.form) ∧
      block.workshop.catalog.factory? ref.factory = some factory ∧
      Bench.declare factory name ref.form arguments (block.bench ref.factory) =
        .ok ref.positions bench ∧
      left = block.setBench ref.factory bench := by
  rw [declare_eq] at h
  cases hr : block.workshop.resolveName name with
  | error error =>
    rw [hr] at h
    cases h
  | ok resolved =>
    rw [hr] at h
    dsimp only at h
    cases hf : block.workshop.catalog.factory resolved.1 with
    | error error =>
      rw [hf] at h
      cases h
    | ok factory =>
      rw [hf] at h
      dsimp only at h
      cases hd : Bench.declare factory name resolved.2 arguments (block.bench resolved.1) with
      | error error bench =>
        rw [hd] at h
        cases h
      | ok positions bench =>
        rw [hd] at h
        cases h
        exact ⟨factory, bench, rfl, Catalog.factory_eq_ok_iff.mp hf, hd, rfl⟩

/-- A declaration whose name stands for something is one on the bench of the factory. -/
theorem declare_of_resolved {block : Block σ} {name factoryName : String} {factory : Factory}
    {form : Form} (hr : block.workshop.resolveName name = .ok (factoryName, form))
    (hf : block.workshop.catalog.factory? factoryName = some factory) (arguments : Arguments) :
    declare name arguments block =
      match Bench.declare factory name form arguments (block.bench factoryName) with
      | .ok positions bench =>
        .ok { factory := factoryName, form, positions } (block.setBench factoryName bench)
      | .error error bench => .error error (block.setBench factoryName bench) := by
  rw [declare_eq, hr]
  dsimp only
  rw [Catalog.factory_eq_ok_iff.mpr hf]

/-- Another declaration of the name works on the bench that the first one has left. -/
theorem declare_setBench {block : Block σ} {name factoryName : String} {factory : Factory}
    {form : Form} (hr : block.workshop.resolveName name = .ok (factoryName, form))
    (hf : block.workshop.catalog.factory? factoryName = some factory) (arguments : Arguments)
    (bench : Bench σ) :
    declare name arguments (block.setBench factoryName bench) =
      match Bench.declare factory name form arguments bench with
      | .ok positions bench =>
        .ok { factory := factoryName, form, positions } (block.setBench factoryName bench)
      | .error error bench => .error error (block.setBench factoryName bench) := by
  have hr' : (block.setBench factoryName bench).workshop.resolveName name =
      .ok (factoryName, form) := hr
  have hd := declare_of_resolved hr' hf arguments
  simp only [bench_setBench, setBench_setBench] at hd
  exact hd

/-- What is known of the bench that a declaration leaves, is known of the factory's bench in the
block. -/
theorem declare_ends_of_bench {block : Block σ} {name factoryName : String} {factory : Factory}
    {form : Form} {answered : Bench σ → Prop} {failed : Error → Bench σ → Prop}
    (hr : block.workshop.resolveName name = .ok (factoryName, form))
    (hf : block.workshop.catalog.factory? factoryName = some factory) (arguments : Arguments)
    (h : Ends (Bench.declare factory name form arguments (block.bench factoryName))
      (fun _ left => answered left) failed) :
    Ends (declare name arguments block) (fun _ left => answered (left.bench factoryName))
      fun error left => failed error (left.bench factoryName) := by
  rw [declare_of_resolved hr hf]
  cases hd : Bench.declare factory name form arguments (block.bench factoryName) with
  | ok positions bench =>
    rw [hd] at h
    show answered ((block.setBench factoryName bench).bench factoryName)
    rw [bench_setBench]
    exact h
  | error error bench =>
    rw [hd] at h
    show failed error ((block.setBench factoryName bench).bench factoryName)
    rw [bench_setBench]
    exact h

/-- A declaration leaves the block as it is, or with what the factory's declaration makes of its
bench. -/
theorem after_declare (name : String) (arguments : Arguments) (block : Block σ) :
    after (declare name arguments) block = block ∨
      ∃ factory form, block.workshop.resolveName name = .ok (factory.name, form) ∧
        block.workshop.catalog.factory? factory.name = some factory ∧
        after (declare name arguments) block = block.setBench factory.name
          (after (Bench.declare factory name form arguments) (block.bench factory.name)) := by
  unfold after
  rw [declare_eq]
  cases hr : block.workshop.resolveName name with
  | error error => exact Or.inl rfl
  | ok resolved =>
    dsimp only
    cases hf : block.workshop.catalog.factory resolved.1 with
    | error error => exact Or.inl rfl
    | ok factory =>
      have hc := Catalog.factory_eq_ok_iff.mp hf
      have hn : factory.name = resolved.1 := block.workshop.catalog.name_of_factory _ _ hc
      refine Or.inr ⟨factory, resolved.2, by rw [hn], by rw [hn]; exact hc, ?_⟩
      rw [hn]
      dsimp only
      cases Bench.declare factory name resolved.2 arguments (block.bench resolved.1) <;> rfl

/-- A declaration of another factory leaves the roster and the counter alone. -/
theorem declare_of_ne {block : Block σ} {name other : String} (arguments : Arguments)
    (hn : ∀ form, block.workshop.resolveName other ≠ .ok (name, form)) :
    (after (declare other arguments) block).workshop.counters.current name =
        block.workshop.counters.current name ∧
      (after (declare other arguments) block).rosters.get? name = block.rosters.get? name := by
  rcases after_declare other arguments block with h | ⟨factory, form, hr, -, h⟩
  · rw [h]
    exact ⟨rfl, rfl⟩
  · have hne : name ≠ factory.name := by
      rintro rfl
      exact hn form hr
    rw [h]
    exact ⟨Bench.declare_counters_of_ne other form arguments _ hne,
      SortedMap.get?_insert_of_ne _ _ hne⟩

/-- A link finds its factories and its association, and then writes pair by pair. -/
theorem link_eq (link : Link) (block : Block σ) :
    Block.link link block =
      match block.workshop.catalog.factory link.source.factory with
      | .error error => .error error block
      | .ok source =>
        match block.workshop.catalog.factory link.target.factory with
        | .error error => .error error block
        | .ok target =>
          match block.workshop.catalog.resolveLink source target link.via with
          | .error error => .error error block
          | .ok resolution =>
            match linkPairs link resolution (resolution.written link.pairs) block with
            | .ok _ block => .ok (resolution.written link.pairs).length block
            | .error error block => .error error block := by
  show (answer (block.workshop.catalog.factory link.source.factory) >>= _) block = _
  cases hs : block.workshop.catalog.factory link.source.factory with
  | error error => rfl
  | ok source =>
    show (answer (block.workshop.catalog.factory link.target.factory) >>= _) block = _
    dsimp only
    cases ht : block.workshop.catalog.factory link.target.factory with
    | error error => rfl
    | ok target =>
      show (answer (block.workshop.catalog.resolveLink source target link.via) >>= _) block = _
      dsimp only
      cases hr : block.workshop.catalog.resolveLink source target link.via with
      | error error => rfl
      | ok resolution =>
        show (linkPairs link resolution (resolution.written link.pairs) >>= _) block = _
        dsimp only
        cases hp : linkPairs link resolution (resolution.written link.pairs) block with
        | error error left => exact bind_of_error hp
        | ok answer left =>
          rw [bind_of_ok hp]
          rfl

/-- A change of an instance looks it up, and leaves it changed whether it succeeds or fails. -/
theorem revise_eq (name : String) (position : Nat) (changes : AttributeMap) (block : Block σ) :
    revise name position changes block =
      match block.rosters.get? name with
      | none => .error (.noSuchAccessor s!"{name}[{position}]") block
      | some roster =>
        match roster.instance? position with
        | none => .error (.noSuchAccessor s!"{roster.factory}[{position}]") block
        | some item =>
          match Instance.revise changes (item, block.store) with
          | .ok _ left => .ok () (block.withInstance name roster position left)
          | .error error left => .error error (block.withInstance name roster position left) := by
  unfold revise
  cases hr : block.rosters.get? name with
  | none => rfl
  | some roster =>
    dsimp only
    cases hi : roster.instance? position with
    | none =>
      rw [Roster.onInstance_of_none _ _ hi]
      dsimp only
      rw [SortedMap.insert_eq_self hr]
    | some item =>
      rw [Roster.onInstance_of_some _ _ hi]
      dsimp only
      cases Instance.revise changes (item, block.store) <;> rfl

/-! ## Steps -/

/-- One step of a link. -/
inductive LinkStep : Block σ → Block σ → Prop
  -- An instance takes the key of another.
  | key {block : Block σ} {name : String} {roster : Roster} {position : Nat} {item : Instance}
      (field : String) (id : Int) (hr : block.rosters.get? name = some roster)
      (hi : roster.instance? position = some item) :
      LinkStep block (block.withInstance name roster position
        (after (Instance.revise (SortedMap.insert ∅ field (.int id))) (item, block.store)))
  -- A record that joins two others is inserted, or refused.
  | join (block : Block σ) (model : String) (attributes : AttributeMap) :
      LinkStep block { block with store := after (RecordStore.insert model attributes) block.store }

/-- One step of a declaration or a link. -/
inductive Step : Block σ → Block σ → Prop
  | declare {block : Block σ} {name : String} {factory : Factory} {bench : Bench σ}
      (hf : block.workshop.catalog.factory? name = some factory)
      (hs : Bench.Step factory (block.bench name) bench) : Step block (block.setBench name bench)
  | link {block block' : Block σ} (h : LinkStep block block') : Step block block'

theorem LinkStep.workshop {block block' : Block σ} (h : LinkStep block block') :
    block'.workshop = block.workshop := by
  cases h <;> rfl

theorem Step.catalog {block block' : Block σ} (h : Step block block') :
    block'.workshop.catalog = block.workshop.catalog := by
  cases h with
  | declare => rfl
  | link h => rw [h.workshop]

/-- The steps of a declaration, taken on the bench of a block. -/
theorem steps_setBench {block : Block σ} {name : String} {factory : Factory} {bench : Bench σ}
    (hf : block.workshop.catalog.factory? name = some factory)
    (hs : ReflTransGen (Bench.Step factory) (block.bench name) bench) :
    ReflTransGen Step block (block.setBench name bench) := by
  induction hs with
  -- Without a step the block may still get an empty roster, by a mark that changes nothing.
  | refl =>
    exact ReflTransGen.single
      (Step.declare hf (Bench.Step.mark _ (block.bench name).roster rfl rfl))
  | @tail bench bench' _ hs ih =>
    apply ih.tail
    rw [← setBench_setBench block name bench bench']
    exact Step.declare hf (by rwa [bench_setBench])

theorem moves_declare (name : String) (arguments : Arguments) :
    Moves Step (declare (σ := σ) name arguments) := by
  intro block
  rcases after_declare name arguments block with h | ⟨factory, form, -, hf, h⟩
  · rw [h]
  · rw [h]
    exact steps_setBench hf (Bench.moves_declare name form arguments (block.bench factory.name))

theorem moves_revise (name : String) (position : Nat) (field : String) (id : Int) :
    Moves LinkStep (revise (σ := σ) name position (SortedMap.insert ∅ field (.int id))) := by
  intro block
  unfold after
  rw [revise_eq]
  cases hr : block.rosters.get? name with
  | none => exact ReflTransGen.refl
  | some roster =>
    dsimp only
    cases hi : roster.instance? position with
    | none => exact ReflTransGen.refl
    | some item =>
      have hs := LinkStep.key field id hr hi
      unfold after at hs
      dsimp only
      cases ho : Instance.revise (SortedMap.insert ∅ field (.int id)) (item, block.store) with
      | ok answer left =>
        rw [ho] at hs
        exact ReflTransGen.single hs
      | error error left =>
        rw [ho] at hs
        exact ReflTransGen.single hs

theorem moves_linkedId (link : Link) (name : String) (position : Nat) :
    Moves LinkStep (linkedId (σ := σ) link name position) := by
  intro block
  unfold after linkedId
  cases block.recordId? name position <;> exact ReflTransGen.refl

theorem moves_insertRecord (model : String) (attributes : AttributeMap) :
    Moves LinkStep (insertRecord (σ := σ) model attributes) := by
  intro block
  apply ReflTransGen.single
  have hs := LinkStep.join block model attributes
  unfold after insertRecord
  unfold after at hs
  cases hi : RecordStore.insert model attributes block.store with
  | ok record left => rwa [hi] at hs
  | error error left => rwa [hi] at hs

/-! ## Links from their parts -/

/-- The parts of links have the property, and so has what is composed of operations with the
property. -/
structure Compositional (P : (α : Type) → EStateM Error (Block σ) α → Prop) : Prop where
  pure : ∀ {α : Type} (answer : α), P α (pure answer)
  bind : ∀ {α β : Type} {first : EStateM Error (Block σ) α}
    {next : α → EStateM Error (Block σ) β},
    P α first → (∀ answer, P β (next answer)) → P β (first >>= next)
  -- A block is read for its workshop.
  read : ∀ {β : Type} {next : Block σ → EStateM Error (Block σ) β},
    (∀ block block', block.workshop = block'.workshop → next block = next block') →
      (∀ block, P β (next block)) → P β (MonadState.get >>= next)
  answer : ∀ {α : Type} (result : Except Error α), P α (answer result)
  linkedId : ∀ link name position, P Int (linkedId link name position)
  key : ∀ name position field id,
    P Unit (revise name position (SortedMap.insert ∅ field (.int id)))
  join : ∀ model attributes, P Unit (insertRecord model attributes)

namespace Compositional

variable {P : (α : Type) → EStateM Error (Block σ) α → Prop}

theorem linkPair (h : Compositional P) (link : Link) (resolution : Resolution)
    (pair : Nat × Nat) : P Unit (linkPair link resolution pair) := by
  unfold Block.linkPair
  dsimp only
  split
  · exact h.bind (h.linkedId link _ _) fun id => h.key _ _ _ id
  · exact h.bind (h.linkedId link _ _) fun id => h.key _ _ _ id
  · exact h.bind (h.linkedId link _ _) fun id => h.key _ _ _ id
  · apply h.bind (h.linkedId link _ _)
    intro ownerId
    apply h.bind (h.linkedId link _ _)
    intro otherId
    exact h.join _ _

theorem linkPairs (h : Compositional P) (link : Link) (resolution : Resolution)
    (pairs : List (Nat × Nat)) : P Unit (linkPairs link resolution pairs) := by
  induction pairs with
  | nil => exact h.pure ()
  | cons pair rest ih => exact h.bind (h.linkPair link resolution pair) fun _ => ih

theorem link (h : Compositional P) (link : Link) : P Nat (Block.link link) := by
  unfold Block.link
  refine h.read (fun block block' hb => by rw [hb]) fun block => ?_
  apply h.bind (h.answer _)
  intro source
  apply h.bind (h.answer _)
  intro target
  apply h.bind (h.answer _)
  intro resolution
  exact h.bind (h.linkPairs link resolution _) fun _ => h.pure _

theorem linkNames (h : Compositional P)
    (hd : ∀ name arguments, P Ref (Block.declare name arguments)) (source target : String) :
    P Nat (linkNames source target) := by
  apply h.bind (hd source .none)
  intro source
  apply h.bind (hd target .none)
  intro target
  exact h.link _

theorem of_moves {R : Block σ → Block σ → Prop}
    (hr : ∀ block block', LinkStep block block' → R block block') :
    Compositional (σ := σ) fun _ operation => Moves R operation where
  pure := Moves.pure
  bind := Moves.bind
  read _ hn := Moves.get_bind hn
  answer result block := by
    cases result <;> exact ReflTransGen.refl
  linkedId link name position := (moves_linkedId link name position).mono hr
  key name position field id := (moves_revise name position field id).mono hr
  join model attributes := (moves_insertRecord model attributes).mono hr

end Compositional

theorem moves_link (link : Link) : Moves LinkStep (Block.link (σ := σ) link) :=
  (Compositional.of_moves fun _ _ h => h).link link

/-! ## Statements and runs -/

/-- The catalog that a statement leaves of the one it finds. -/
def catalogAfter (statement : Statement) (catalog : Catalog) : Catalog :=
  match statement with
  | .declare _ _ | .link _ | .linkNames _ _ => catalog
  | .register factory => catalog.register factory
  | .registerSchema schema => catalog.registerSchema schema
  | .clearCatalog => ∅

def withCatalog (block : Block σ) (catalog : Catalog) : Block σ :=
  { block with workshop := { block.workshop with catalog } }

/-- A statement has the property of the links, if declarations and its change of the catalog have
it. -/
theorem Compositional.perform {P : (α : Type) → EStateM Error (Block σ) α → Prop}
    (h : Compositional P) (hd : ∀ name arguments, P Ref (Block.declare name arguments))
    {statement : Statement} (hc : P Outcome (changeCatalog (catalogAfter statement))) :
    P Outcome (perform statement) := by
  cases statement with
  | declare name arguments => exact h.bind (hd name arguments) fun _ => h.pure _
  | link link => exact h.bind (h.link link) fun _ => h.pure _
  | linkNames source target => exact h.bind (h.linkNames hd source target) fun _ => h.pure _
  | register | registerSchema | clearCatalog => exact hc

theorem moves_perform (statement : Statement) :
    Moves (fun block block' => Step block block' ∨
      block' = block.withCatalog (catalogAfter statement block.workshop.catalog))
      (perform statement : EStateM Error (Block σ) Outcome) :=
  (Compositional.of_moves fun _ _ h => Or.inl (Step.link h)).perform
    (fun name arguments => (moves_declare name arguments).mono fun _ _ => Or.inl)
    (Moves.bind (Moves.modify fun _ => Or.inr rfl) fun _ => Moves.pure _)

theorem after_perform_declare (name : String) (arguments : Arguments) (block : Block σ) :
    after (perform (.declare name arguments)) block = after (declare name arguments) block :=
  after_bind_pure Outcome.declared

theorem after_perform_link (link : Link) (block : Block σ) :
    after (perform (.link link)) block = after (Block.link link) block :=
  after_bind_pure Outcome.linked

theorem after_perform_linkNames (source target : String) (block : Block σ) :
    after (perform (.linkNames source target)) block = after (linkNames source target) block :=
  after_bind_pure Outcome.linked

theorem performAll_cons (attempt : Attempt) (rest : List Attempt) (block : Block σ) :
    performAll (attempt :: rest) block =
      match perform attempt.statement block with
      | .ok _ block => performAll rest block
      | .error error block =>
        if attempt.caught then performAll rest block else .error error block := rfl

/-- A run that completes goes on from what its first statement leaves. -/
theorem after_performAll_cons {attempt : Attempt} {rest : List Attempt} {block left : Block σ}
    (h : performAll (attempt :: rest) block = .ok () left) :
    after (performAll rest) (after (perform attempt.statement) block) = left := by
  rw [performAll_cons] at h
  cases hp : perform attempt.statement block with
  | ok outcome middle =>
    rw [hp] at h
    rw [after_of_ok hp]
    exact after_of_ok h
  | error error middle =>
    rw [hp] at h
    rw [after_of_error hp]
    dsimp only at h
    split at h
    · exact after_of_ok h
    · cases h

theorem performAll_append (attempts rest : List Attempt) (block : Block σ) :
    performAll (attempts ++ rest) block =
      (performAll attempts >>= fun _ => performAll rest) block := by
  induction attempts generalizing block with
  | nil => rfl
  | cons attempt attempts ih =>
    have hc := performAll_cons attempt attempts block
    rw [List.cons_append, performAll_cons]
    cases hp : perform attempt.statement block with
    | ok outcome left =>
      rw [hp] at hc
      exact (ih left).trans (bind_congr_left hc).symm
    | error error left =>
      rw [hp] at hc
      dsimp only at hc ⊢
      -- A failure that is caught goes on like a success, and any other ends both runs.
      by_cases hcaught : attempt.caught
      · rw [if_pos hcaught] at hc ⊢
        exact (ih left).trans (bind_congr_left hc).symm
      · rw [if_neg hcaught] at hc ⊢
        rw [bind_of_error hc]

/-- What every statement of a run keeps from the block in which it is carried out holds after the
run, also where a failure ends it. -/
theorem performAll_induction_at {P : Block σ → Prop} {attempts : List Attempt} {block : Block σ}
    (hs : ∀ before attempt rest middle, attempts = before ++ attempt :: rest →
      performAll before block = .ok () middle → P middle →
        P (after (perform attempt.statement) middle)) (h : P block) :
    P (after (performAll attempts) block) := by
  induction attempts generalizing block with
  | nil => exact h
  | cons attempt rest ih =>
    have hp := hs [] attempt rest block rfl rfl h
    -- The rest of the run goes on from whatever block the first statement has left.
    have hrest : ∀ left, (∀ before, performAll (attempt :: before) block = performAll before left) →
        P left → P (after (performAll rest) left) := by
      intro left hleft hp
      refine ih (fun before next rest' middle he hb => ?_) hp
      exact hs (attempt :: before) next rest' middle (by rw [he]; rfl) ((hleft before).trans hb)
    have hcons := fun before => performAll_cons attempt before block
    unfold after
    rw [hcons]
    cases hr : perform attempt.statement block with
    | ok outcome left =>
      rw [after_of_ok hr] at hp
      rw [hr] at hcons
      exact hrest left hcons hp
    | error error left =>
      rw [after_of_error hr] at hp
      rw [hr] at hcons
      dsimp only at hcons ⊢
      by_cases hc : attempt.caught
      · simp only [if_pos hc] at hcons ⊢
        exact hrest left hcons hp
      · rw [if_neg hc]
        exact hp

/-- One statement more goes on from where the run before has come. -/
theorem after_performAll_concat {before : List Attempt} {attempt : Attempt} {block middle : Block σ}
    (h : performAll before block = .ok () middle) :
    after (performAll (before ++ [attempt])) block =
      after (perform attempt.statement) middle := by
  have hc := performAll_cons attempt [] middle
  unfold after
  rw [performAll_append, bind_of_ok h, hc]
  cases perform attempt.statement middle with
  | ok outcome left => rfl
  | error error left =>
    dsimp only
    by_cases hcaught : attempt.caught
    · rw [if_pos hcaught]
      rfl
    · rw [if_neg hcaught]

/-- What every statement of a run keeps or else gives up for `Q` holds after the run, if the run
never comes to where `Q` holds. -/
theorem performAll_unless {P Q : Block σ → Prop} {attempts : List Attempt} {block : Block σ}
    (hs : ∀ before attempt rest middle, attempts = before ++ attempt :: rest →
      performAll before block = .ok () middle → P middle →
        P (after (perform attempt.statement) middle) ∨
          Q (after (perform attempt.statement) middle))
    (hq : ∀ before, before <+: attempts → ¬Q (after (performAll before) block)) (h : P block) :
    P (after (performAll attempts) block) := by
  apply performAll_induction_at _ h
  intro before attempt rest middle he hb hp
  apply (hs before attempt rest middle he hb hp).resolve_right
  rw [← after_performAll_concat hb]
  exact hq _ ⟨rest, by rw [he, List.append_assoc, List.singleton_append]⟩

/-- What every statement of a run keeps holds after the run, also where a failure ends it. -/
theorem performAll_induction {P : Block σ → Prop} {attempts : List Attempt} {block : Block σ}
    (hs : ∀ attempt ∈ attempts, ∀ block, P block → P (after (perform attempt.statement) block))
    (h : P block) : P (after (performAll attempts) block) :=
  performAll_induction_at (fun before attempt rest middle he _ =>
    hs attempt (by rw [he]; exact List.mem_append_right _ List.mem_cons_self) middle) h

/-- Declarations as a whole, steps of links and changes of the catalog keep the property. -/
structure Kept (P : Block σ → Prop) : Prop where
  declare : ∀ name arguments block, P block → P (after (Block.declare name arguments) block)
  link : ∀ block block', LinkStep block block' → P block → P block'
  catalog : ∀ block catalog, P block → P (block.withCatalog catalog)

namespace Kept

variable {P : Block σ → Prop} {block : Block σ}

theorem moves_declare (h : Kept P) (name : String) (arguments : Arguments) :
    Moves (fun block block' => P block → P block')
      (Block.declare name arguments : EStateM Error (Block σ) Ref) :=
  Moves.of_after (h.declare name arguments)

theorem moves_link (h : Kept P) (link : Link) :
    Moves (fun block block' => P block → P block')
      (Block.link link : EStateM Error (Block σ) Nat) :=
  (Block.moves_link link).mono h.link

theorem perform (h : Kept P) (statement : Statement) (hp : P block) :
    P (after (Block.perform statement) block) :=
  Moves.keeps ((Compositional.of_moves h.link).perform h.moves_declare
    (Moves.bind (Moves.modify fun block hb => h.catalog block _ hb) fun _ => Moves.pure _)) hp

theorem performAll (h : Kept P) (attempts : List Attempt) (hp : P block) :
    P (after (Block.performAll attempts) block) :=
  performAll_induction (fun attempt _ _ hb => h.perform attempt.statement hb) hp

end Kept

/-- What every step and every change of the catalog keeps holds after a run. -/
theorem performAll_steps {P : Block σ → Prop} {attempts : List Attempt} {block : Block σ}
    (hs : ∀ block block', Step block block' → P block → P block')
    (hc : ∀ attempt ∈ attempts, ∀ block, P block →
      P (block.withCatalog (catalogAfter attempt.statement block.workshop.catalog)))
    (h : P block) : P (after (performAll attempts) block) := by
  apply performAll_induction _ h
  intro attempt ha block hp
  -- Between its steps a statement passes through states of which `P` holds as well.
  apply Moves.keeps _ hp
  apply (moves_perform attempt.statement).mono
  rintro before left (hstep | rfl) hb
  · exact hs _ _ hstep hb
  · exact hc attempt ha _ hb

end Block

end Fixtures
