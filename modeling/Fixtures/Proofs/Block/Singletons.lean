import Fixtures.Proofs.Block.Accessors
import Fixtures.Proofs.Block.References
import Fixtures.Proofs.Block.Rejection

/-!
# Singletons

A declaration of the singleton is rejected if it is unclear which instance is meant: there are
several, and none of them was declared as the singleton.  Once one was, this does not happen any
more.  Whatever else is declared and whatever fails, the singleton stays at the first position, no
index is spent on it, and from when it is saved, to declare it without overrides does nothing at all
(`Block.declare_singleton_stable`).
-/

namespace Fixtures

/-- The arguments that a name of the singleton takes. -/
def Arguments.one (overrides : Option AttributeMap) : Arguments :=
  match overrides with
  | .none => .none
  | .some overrides => .overrides [overrides]

namespace Bench

variable {σ : Type} {factory : Factory} {bench bench' left : Bench σ} {position : Nat}

/-! ## Saved instances stay saved -/

theorem has_withInstance {item : Instance} {pair : Instance × σ} {p : Nat}
    (h : bench.roster.Has true p) (hi : bench.roster.instance? position = some item)
    (hs : item.isPersisted = true → pair.1.isPersisted = true) :
    (bench.withInstance position pair).roster.Has true p := by
  obtain ⟨found, hf, hp⟩ := h
  have hput := (puts_withInstance hi pair).instances p
  by_cases he : p = position
  · rw [if_pos he] at hput
    rw [he, hi] at hf
    cases hf
    exact ⟨pair.1, hput, fun ht => hs (hp ht)⟩
  · rw [if_neg he] at hput
    exact ⟨found, hput.trans hf, hp⟩

variable [RecordStore σ]

theorem Step.has (h : Step factory bench bench') (hp : bench.roster.Has true position) :
    bench'.roster.Has true position := by
  cases h with
  | mark roster hf hi =>
    unfold Roster.Has Roster.instance?
    rw [hi]
    exact hp
  | spend => exact hp
  | build attributes overrides ha =>
    obtain ⟨item, hi, hs⟩ := hp
    refine ⟨item, ?_, hs⟩
    rw [Roster.instance?_push, if_neg, hi]
    rintro rfl
    rw [Roster.instance?_size] at hi
    cases hi
  | override p item overrides hi =>
    have ho := item.outline_override overrides bench.store
    exact has_withInstance hp hi fun hs => (congrArg Prod.snd ho).trans hs
  | save p item hi =>
    refine has_withInstance hp hi fun hs => ?_
    obtain ⟨record, hr⟩ := Option.isSome_iff_exists.mp hs
    rw [after_of_ok (Instance.save_of_some factory bench.store hr)]
    exact hs

/-! ## Declaring the singleton of a roster -/

variable {overrides : Option AttributeMap} {saved : Bool}

theorem declare_one {form : Form} (hf : form.isCollection = false) (name : String)
    (overrides : Option AttributeMap) :
    declare (σ := σ) factory name form (.one overrides) =
      (do return [← declareSingleton factory overrides !form.isHash]) := by
  unfold declare
  rw [hf]
  cases overrides <;> rfl

/-- Where it is clear which instance is meant, nothing is rejected. -/
theorem declareSingleton_accepts (hu : ¬(bench.roster.singleton = none ∧ 2 ≤ bench.roster.size)) :
    Ends (declareSingleton factory overrides saved bench) (fun _ _ => True)
      fun error _ => error.isRejection = false := by
  show Ends ((if bench.roster.singleton = none ∧ 2 ≤ bench.roster.size then _ else _ :
    EStateM Error (Bench σ) Nat) bench) _ _
  rw [if_neg hu]
  exact accepting_compositional.touch _ overrides saved (Mark.singleton _) (FailsOnly.pure _) bench

theorem declareSingleton_violates (hu : bench.roster.singleton = none ∧ 2 ≤ bench.roster.size) :
    declareSingleton factory overrides saved bench =
      .error (.uniquenessViolation bench.roster.factory bench.roster.size) bench := by
  show (if bench.roster.singleton = none ∧ 2 ≤ bench.roster.size then _ else _ :
    EStateM Error (Bench σ) Nat) bench = _
  rw [if_pos hu]
  rfl

theorem declareSingleton_violates_iff {name : String} {count : Nat} :
    declareSingleton factory overrides saved bench =
        .error (.uniquenessViolation name count) left ↔
      (bench.roster.singleton = none ∧ 2 ≤ bench.roster.size) ∧
        name = bench.roster.factory ∧ count = bench.roster.size ∧ left = bench := by
  constructor
  · intro h
    by_cases hu : bench.roster.singleton = none ∧ 2 ≤ bench.roster.size
    · rw [declareSingleton_violates hu] at h
      cases h
      exact ⟨hu, rfl, rfl, rfl⟩
    · have ha : Ends (declareSingleton factory overrides saved bench) _ _ :=
        declareSingleton_accepts hu
      rw [h] at ha
      cases ha
  · rintro ⟨hu, rfl, rfl, rfl⟩
    exact declareSingleton_violates hu

/-- A singleton that has its instance is declared again without spending an index. -/
theorem declareSingleton_again (hs : bench.roster.singleton = some position)
    (hp : position < bench.roster.size) :
    Ends (declareSingleton factory overrides saved bench)
      (fun answer left => answer = position ∧ left.counters = bench.counters)
      fun error left => error.isRejection = false ∧ left.counters = bench.counters := by
  have hu : ¬(bench.roster.singleton = none ∧ 2 ≤ bench.roster.size) := by
    rw [hs]
    exact fun hu => nomatch hu.1
  have hc : Ends (declareSingleton factory overrides saved bench)
      (fun answer left => answer = position ∧ left.counters = bench.counters)
      fun _ left => left.counters = bench.counters := by
    show Ends ((if bench.roster.singleton = none ∧ 2 ≤ bench.roster.size then _ else _ :
      EStateM Error (Bench σ) Nat) bench) _ _
    rw [if_neg hu, hs, Option.getD_some]
    apply Ends.bind ((Ends.of_after (framed_prepare hp factory overrides)).mono
      (fun _ _ h => h) fun _ _ h => h.counters)
    intro _ prepared hprepared
    show Ends ((saveIf saved factory position >>= fun _ => pure position :
      EStateM Error (Bench σ) Nat)
      { prepared with roster := { prepared.roster with singleton := some position } }) _ _
    have hsave := framed_saveIf saved factory position
      { prepared with roster := { prepared.roster with singleton := some position } }
    apply Ends.bind ((Ends.of_after hsave).mono
      (fun _ _ h => h) fun _ _ h => h.counters.trans hprepared.counters)
    intro _ _ hsaved
    exact ⟨rfl, hsaved.counters.trans hprepared.counters⟩
  exact (hc.and (declareSingleton_accepts hu)).mono (fun _ _ h => h.1) fun _ _ h => ⟨h.2, h.1⟩

/-- A singleton that is saved is declared without effect, if nothing is to be changed. -/
theorem declareSingleton_eq_self (hs : bench.roster.singleton = some position)
    (hp : bench.roster.Has true position) :
    declareSingleton factory none saved bench = .ok position bench := by
  obtain ⟨item, hi, hsaved⟩ := hp
  obtain ⟨record, hr⟩ := Option.isSome_iff_exists.mp (hsaved rfl)
  have hlt : position < bench.roster.size := Roster.lt_size_iff.mpr (by rw [hi]; rfl)
  have hprepare : prepare factory position none bench = .ok () bench := by
    show (if position < bench.roster.size then _ else _ : EStateM Error (Bench σ) Unit) bench = _
    rw [if_pos hlt]
    rfl
  have hmark : ({ bench with roster := { bench.roster with singleton := some position } } :
      Bench σ) = bench := by rw [← hs]
  have hsave : saveIf saved factory position bench = .ok () bench := by
    unfold saveIf
    split
    · rw [onInstance_of_some _ hi, Instance.save_of_some factory bench.store hr]
      dsimp only
      rw [withInstance_self hi]
    · rfl
  show (if bench.roster.singleton = none ∧ 2 ≤ bench.roster.size then _ else _ :
    EStateM Error (Bench σ) Nat) bench = _
  rw [if_neg (by rw [hs]; exact fun hu => nomatch hu.1), hs, Option.getD_some,
    bind_of_ok hprepare]
  show (saveIf saved factory position >>= fun _ => pure position : EStateM Error (Bench σ) Nat)
    { bench with roster := { bench.roster with singleton := some position } } = _
  rw [hmark, bind_of_ok hsave]
  rfl

end Bench

namespace Block

variable {σ : Type} {block block' left : Block σ} {name factoryName : String} {position : Nat}

/-! ## Benches of factories that have a roster -/

/-- Instances are kept in a roster of the block. -/
theorem get?_of_instances (h : 0 < (block.bench name).roster.size) :
    block.rosters.get? name = some (block.bench name).roster := by
  unfold bench at h ⊢
  cases hr : block.rosters.get? name with
  | none =>
    rw [hr] at h
    exact absurd h (Nat.lt_irrefl 0)
  | some roster => rfl

theorem setBench_bench_of_instances (h : 0 < (block.bench name).roster.size) :
    block.setBench name (block.bench name) = block := by
  rw [setBench_bench, mention_of_some (get?_of_instances h)]

/-! ## Names of rosters -/

/-- Every roster is that of the factory under whose name it is kept. -/
def Named (block : Block σ) : Prop :=
  ∀ name roster, block.rosters.get? name = some roster → roster.factory = name

theorem Named.bench (h : block.Named) (name : String) :
    (block.bench name).roster.factory = name := by
  unfold Block.bench
  cases hr : block.rosters.get? name with
  | none => rfl
  | some roster => exact h name roster hr

theorem Named.setBench (h : block.Named) {bench : Bench σ} (hb : bench.roster.factory = name) :
    (block.setBench name bench).Named := by
  intro other roster hr
  change (block.rosters.insert name bench.roster).get? other = some roster at hr
  rw [SortedMap.get?_insert] at hr
  split at hr
  · rename_i he
    cases hr
    rw [he, hb]
  · exact h other roster hr

variable [RecordStore σ]

theorem Step.named (h : Step block block') (hn : block.Named) : block'.Named := by
  cases h with
  | @declare name factory bench hf hs =>
    refine hn.setBench (Eq.trans ?_ (hn.bench name))
    cases hs with
    | mark roster hf hi => exact hf
    | spend | build | override | save => rfl
  | link hl =>
    cases hl with
    | @key name roster position item field id hr hi =>
      rw [withInstance_eq_setBench hr]
      exact hn.setBench (hn.bench name)
    | join => exact hn

theorem performAll_named (workshop : Workshop) (store : σ) (attempts : List Attempt) :
    (after (performAll attempts) (start workshop store)).Named :=
  performAll_steps (fun _ _ hs hn => hs.named hn) (fun _ _ _ hn => hn) fun _ _ hr => nomatch hr

/-! ## Saved instances of a block -/

def HasSaved (name : String) (position : Nat) (block : Block σ) : Prop :=
  ∃ item, block.instance? name position = some item ∧ item.isPersisted = true

omit [RecordStore σ] in
theorem hasSaved_iff :
    block.HasSaved name position ↔ (block.bench name).roster.Has true position := by
  unfold HasSaved Roster.Has
  simp only [instance?_bench, true_implies]

omit [RecordStore σ] in
theorem HasSaved.setBench {other : String} {bench : Bench σ} (h : block.HasSaved name position)
    (hb : name = other → bench.roster.Has true position) :
    (block.setBench other bench).HasSaved name position := by
  rw [hasSaved_iff]
  by_cases hn : name = other
  · rw [hn, bench_setBench]
    exact hb hn
  · rw [hasSaved_iff] at h
    unfold Block.bench Block.setBench
    dsimp only
    rw [SortedMap.get?_insert_of_ne _ _ hn]
    exact h

theorem Step.hasSaved (h : Step block block') (hs : block.HasSaved name position) :
    block'.HasSaved name position := by
  cases h with
  | declare hf hstep =>
    refine hs.setBench ?_
    rintro rfl
    exact hstep.has (hasSaved_iff.mp hs)
  | link hl =>
    cases hl with
    | @key other roster p item field id hr hi =>
      rw [withInstance_eq_setBench hr]
      refine hs.setBench ?_
      rintro rfl
      have hroster := bench_roster_of_some hr
      have ho := item.outline_revise (SortedMap.insert ∅ field (.int id)) block.store
      exact Bench.has_withInstance (hasSaved_iff.mp hs) (hroster ▸ hi)
        fun hp => (congrArg Prod.snd ho).trans hp
    | join => exact hs

theorem performAll_hasSaved (attempts : List Attempt) (h : block.HasSaved name position) :
    (after (performAll attempts) block).HasSaved name position :=
  performAll_steps (fun _ _ hs hp => hs.hasSaved hp) (fun _ _ _ hp => hp) h

/-! ## Runs that declare a singleton -/

/-- In the course of a run a statement declares the singleton of the factory. -/
def DeclaresSingleton (workshop : Workshop) (store : σ) (attempts : List Attempt)
    (factory : String) : Prop :=
  ∃ before attempt rest block name ref, attempts = before ++ attempt :: rest ∧
    performAll before (start workshop store) = .ok () block ∧
      DeclaresName block attempt.statement name ref ∧
        ref.factory = factory ∧ ref.form.isCollection = false

/-- In the course of a run the first instance of the factory is saved. -/
def SavesFirst (workshop : Workshop) (store : σ) (attempts : List Attempt) (factory : String) :
    Prop :=
  ∃ before rest, attempts = before ++ rest ∧
    (after (performAll before) (start workshop store)).HasSaved factory 0

variable {workshop : Workshop} {store : σ} {attempts : List Attempt}

theorem Answered.declaresSingleton {arguments : Arguments} {ref : Ref}
    (h : Answered workshop store attempts arguments ref left)
    (hf : ref.form.isCollection = false) :
    DeclaresSingleton workshop store attempts ref.factory := by
  obtain ⟨before, name, caught, rest, block, he, hb, hd⟩ := h
  exact ⟨before, _, rest, block, name, ref, he, hb, DeclaresName.declare hd, rfl, hf⟩

theorem SavesFirst.hasSaved (h : SavesFirst workshop store attempts factoryName) :
    (after (performAll attempts) (start workshop store)).HasSaved factoryName 0 := by
  obtain ⟨before, rest, rfl, hs⟩ := h
  unfold after
  rw [performAll_append]
  cases hb : performAll before (start workshop store) with
  | ok answer middle =>
    rw [after_of_ok hb] at hs
    rw [bind_of_ok hb]
    exact performAll_hasSaved rest hs
  | error error middle =>
    rw [after_of_error hb] at hs
    rw [bind_of_error hb]
    exact hs

/-- The statement leaves the singleton declared, and nothing takes it back. -/
theorem DeclaresSingleton.declared (h : DeclaresSingleton workshop store attempts factoryName) :
    ∃ form, form.isCollection = false ∧
      (after (performAll attempts) (start workshop store)).Declared factoryName form := by
  obtain ⟨before, attempt, rest, block, name, ref, rfl, hb, hd, rfl, hf⟩ := h
  refine ⟨ref.form, hf, ?_⟩
  have hdeclared := hd.declared.2
  have hk := declared_kept (σ := σ) ref.factory ref.form
  unfold after
  rw [performAll_append, bind_of_ok hb, performAll_cons]
  cases hp : perform attempt.statement block with
  | ok outcome middle =>
    rw [after_of_ok hp] at hdeclared
    exact hk.performAll rest hdeclared
  | error error middle =>
    rw [after_of_error hp] at hdeclared
    dsimp only
    by_cases hc : attempt.caught
    · rw [if_pos hc]
      exact hk.performAll rest hdeclared
    · rw [if_neg hc]
      exact hdeclared

theorem DeclaresSingleton.singleton (h : DeclaresSingleton workshop store attempts factoryName) :
    let bench := (after (performAll attempts) (start workshop store)).bench factoryName
    bench.roster.singleton = some 0 ∧ 0 < bench.roster.size := by
  intro bench
  obtain ⟨form, hf, hd⟩ := h.declared
  have hcounted : bench.roster.Counted :=
    (wellFormed_kept.performAll attempts (start_wellFormed workshop store)).bench _
  have hs : bench.roster.hasSingleton = true := by
    have hdeclares := hd.bench
    unfold Roster.declares at hdeclares
    rwa [hf] at hdeclares
  have hsize := hcounted.size
  rw [if_pos hs] at hsize
  obtain ⟨position, hp⟩ := Option.isSome_iff_exists.mp hs
  exact ⟨hcounted.singleton position hp ▸ hp, by omega⟩

/-! ## Declaring the singleton of a block -/

theorem declare_one_of_resolved {factory : Factory} {form : Form}
    (hr : block.workshop.resolveName name = .ok (factoryName, form))
    (hf : block.workshop.catalog.factory? factoryName = some factory)
    (hc : form.isCollection = false) (overrides : Option AttributeMap) :
    declare name (.one overrides) block =
      match Bench.declareSingleton factory overrides (!form.isHash) (block.bench factoryName) with
      | .ok position bench =>
        .ok { factory := factoryName, form, positions := [position] }
          (block.setBench factoryName bench)
      | .error error bench => .error error (block.setBench factoryName bench) := by
  rw [declare_of_resolved hr hf, Bench.declare_one hc]
  cases hd : Bench.declareSingleton factory overrides (!form.isHash) (block.bench factoryName) with
  | ok position bench => rw [bind_of_ok hd]; rfl
  | error error bench => rw [bind_of_error hd]

theorem declare_violates_iff {form : Form}
    (hr : block.workshop.resolveName name = .ok (factoryName, form))
    (hc : form.isCollection = false) (hnamed : block.Named) {overrides : Option AttributeMap}
    {other : String} {count : Nat} :
    declare name (.one overrides) block = .error (.uniquenessViolation other count) left ↔
      (∃ roster, block.rosters.get? factoryName = some roster ∧ roster.singleton = none ∧
        2 ≤ roster.size ∧ other = factoryName ∧ count = roster.size) ∧ left = block := by
  obtain ⟨factory, hf⟩ := Catalog.factory?_of_resolveName hr
  rw [declare_one_of_resolved hr hf hc]
  constructor
  · intro h
    cases he : Bench.declareSingleton factory overrides (!form.isHash)
        (block.bench factoryName) with
    | ok position bench =>
      rw [he] at h
      cases h
    | error error bench =>
      rw [he] at h
      cases h
      obtain ⟨⟨hn, h2⟩, rfl, rfl, rfl⟩ := Bench.declareSingleton_violates_iff.mp he
      have hpos : 0 < (block.bench factoryName).roster.size := by omega
      exact ⟨⟨_, get?_of_instances hpos, hn, h2, hnamed.bench factoryName, rfl⟩,
        setBench_bench_of_instances hpos⟩
  · rintro ⟨⟨roster, hg, hn, h2, rfl, rfl⟩, rfl⟩
    have hroster := bench_roster_of_some hg
    rw [← hroster] at hn h2 ⊢
    rw [Bench.declareSingleton_violates ⟨hn, h2⟩, hnamed.bench]
    dsimp only
    rw [setBench_bench_of_instances (by omega)]

/-- Where the singleton stands at the first position, declaring it stands for that, and spends
nothing. -/
theorem declare_one_again {form : Form}
    (hr : block.workshop.resolveName name = .ok (factoryName, form))
    (hc : form.isCollection = false)
    (hs : (block.bench factoryName).roster.singleton = some 0)
    (hpos : 0 < (block.bench factoryName).roster.size) (overrides : Option AttributeMap) :
    Ends (declare name (.one overrides) block)
      (fun ref left => ref = { factory := factoryName, form, positions := [0] } ∧
        left.workshop.counters = block.workshop.counters)
      (fun error left => (∀ other count, error ≠ .uniquenessViolation other count) ∧
        left.workshop.counters = block.workshop.counters) := by
  obtain ⟨factory, hf⟩ := Catalog.factory?_of_resolveName hr
  rw [declare_one_of_resolved hr hf hc]
  have ha : Ends (Bench.declareSingleton factory overrides (!form.isHash)
    (block.bench factoryName)) _ _ := Bench.declareSingleton_again hs hpos
  cases he : Bench.declareSingleton factory overrides (!form.isHash) (block.bench factoryName) with
  | ok position bench =>
    rw [he] at ha
    obtain ⟨rfl, hcounters⟩ := ha
    exact ⟨rfl, hcounters⟩
  | error error bench =>
    rw [he] at ha
    refine ⟨?_, ha.2⟩
    rintro other count rfl
    cases ha.1

/-- A declaration of the singleton violates its uniqueness exactly if there are several instances
and none of them is the singleton; it then tells how many, and leaves the block as it is.  After one
has succeeded, no further one does, nor spends an index, and each that succeeds stands for the first
position.  Without overrides it does nothing, once the instance there has been saved. -/
theorem declare_singleton_stable (workshop : Workshop) (store : σ) (attempts : List Attempt)
    (name factory : String) (form : Form) (overrides : Option AttributeMap) :
    let block := after (performAll attempts) (start workshop store)
    block.workshop.resolveName name = .ok (factory, form) → form.isCollection = false →
    (∀ other count left,
      declare name (.one overrides) block = .error (.uniquenessViolation other count) left ↔
        (∃ roster, block.rosters.get? factory = some roster ∧ roster.singleton = none ∧
          2 ≤ roster.size ∧ other = factory ∧ count = roster.size) ∧ left = block) ∧
    (DeclaresSingleton workshop store attempts factory →
      Ends (declare name (.one overrides) block)
        (fun ref left => ref = { factory, form, positions := [0] } ∧
          left.workshop.counters = block.workshop.counters)
        (fun error left => (∀ other count, error ≠ .uniquenessViolation other count) ∧
          left.workshop.counters = block.workshop.counters)) ∧
    (DeclaresSingleton workshop store attempts factory →
      SavesFirst workshop store attempts factory →
        declare name .none block = .ok { factory, form, positions := [0] } block) := by
  intro block hr hc
  have hnamed : block.Named := performAll_named workshop store attempts
  refine ⟨fun other count left => declare_violates_iff hr hc hnamed, fun hd => ?again,
    fun hd hs => ?unchanged⟩
  case again =>
    obtain ⟨hsingleton, hpos⟩ := hd.singleton
    exact declare_one_again hr hc hsingleton hpos overrides
  case unchanged =>
    obtain ⟨found, hf⟩ := Catalog.factory?_of_resolveName hr
    obtain ⟨hsingleton, hpos⟩ := hd.singleton
    have hsaved := hasSaved_iff.mp hs.hasSaved
    have ho := declare_one_of_resolved hr hf hc none
    rw [Bench.declareSingleton_eq_self hsingleton hsaved] at ho
    refine ho.trans ?_
    dsimp only
    rw [setBench_bench_of_instances hpos]

/-- It is unclear which of two posts is meant, but not which of three users, one of which was
declared as the singleton before the others were. -/
theorem declare_singleton_stable_of_collections :
    let user : Factory := { name := "user", model := "User" }
    let post : Factory := { name := "post", model := "Post" }
    let workshop : Workshop := { catalog := ((∅ : Catalog).register user).register post }
    let store : Database := { }
    let attempts : List Attempt := [⟨.declare "posts" (.count 2), false⟩,
      ⟨.declare "user" .none, false⟩, ⟨.declare "users" (.count 3), false⟩]
    let block := after (performAll attempts) (start workshop store)
    block.workshop.resolveName "post" = .ok ("post", .singleton) ∧
      block.workshop.resolveName "user" = .ok ("user", .singleton) ∧
      DeclaresSingleton workshop store attempts "user" ∧
      SavesFirst workshop store attempts "user" ∧
      declare "post" .none block = .error (.uniquenessViolation "post" 2) block ∧
      declare "user" .none block =
        .ok { factory := "user", form := .singleton, positions := [0] } block := by
  intro user post workshop store attempts block
  have hpost : block.workshop.resolveName "post" = .ok ("post", .singleton) :=
    eq_ok_of_toOption (by decide +kernel)
  have huser : block.workshop.resolveName "user" = .ok ("user", .singleton) :=
    eq_ok_of_toOption (by decide +kernel)
  obtain ⟨made, ha⟩ : ∃ made, Answered workshop store attempts .none
      { factory := "user", form := .singleton, positions := [0] } made :=
    answered_of_ends [⟨.declare "posts" (.count 2), false⟩] (by decide +kernel)
  have hd : DeclaresSingleton workshop store attempts "user" := ha.declaresSingleton rfl
  have hs : SavesFirst workshop store attempts "user" := by
    refine ⟨attempts, [], (List.append_nil _).symm, ?_⟩
    exact (Option.any_eq_true Instance.isPersisted _).mp (by decide +kernel)
  obtain ⟨roster, hr, hu⟩ := (Option.any_eq_true (fun roster : Roster =>
    roster.singleton = none ∧ roster.size = 2) (block.rosters.get? "post")).mp (by decide +kernel)
  obtain ⟨hn, hsize⟩ := of_decide_eq_true hu
  refine ⟨hpost, huser, hd, hs, ?_, ?_⟩
  · exact ((declare_singleton_stable workshop store attempts "post" "post" .singleton none hpost
      rfl).1 "post" 2 block).mpr ⟨⟨roster, hr, hn, Nat.le_of_eq hsize.symm, rfl, hsize.symm⟩, rfl⟩
  · exact (declare_singleton_stable workshop store attempts "user" "user" .singleton none huser
      rfl).2.2 hd hs

end Block

end Fixtures
