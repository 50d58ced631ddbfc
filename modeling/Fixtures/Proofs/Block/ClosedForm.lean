import Fixtures.Proofs.Block.Step
import Fixtures.Proofs.Roster.Tally
import Fixtures.Store.Database
import Mathlib.Data.List.Induction

/-!
# Blocks of declarations in closed form

What a block of declarations leaves, if they all succeed, does not depend on their order except
for which statement answers which positions.  The roster of a factory can be told from how many
positions each form of its collection was asked for and from whether its singleton was declared
(`Block.performAll_closedForm`).
-/

namespace Fixtures

/-- A statement that declares a name. -/
structure Declaration where
  name : String
  arguments : Arguments

namespace Declaration

def attempt (declaration : Declaration) : Attempt :=
  { statement := .declare declaration.name declaration.arguments }

variable (workshop : Workshop) (factory : String)

/-- The form of the factory that the declared name stands for, if it stands for one. -/
def form? (declaration : Declaration) : Option Form :=
  match workshop.resolveName declaration.name with
  | .ok (found, form) => if found = factory then some form else none
  | .error _ => none

/-- The number of positions that the declaration asks for, among record forms or else hash forms of
the factory's collection. -/
def asks (saved : Bool) (declaration : Declaration) : Nat :=
  match declaration.form? workshop factory with
  | some form => form.asks declaration.arguments saved
  | none => 0

def asked (saved : Bool) : List Declaration → Nat
  | [] => 0
  | declaration :: rest => declaration.asks workshop factory saved + asked saved rest

def hasSingleton (declarations : List Declaration) : Bool :=
  declarations.any fun declaration =>
    (declaration.form? workshop factory).any fun form => !form.isCollection

def sharesRecord (declarations : List Declaration) : Bool :=
  declarations.any fun declaration => (declaration.form? workshop factory).any Form.sharesRecord

/-- The number of instances that declarations need. -/
def instanceCount (declarations : List Declaration) : Nat :=
  max (max (asked workshop factory true declarations) (asked workshop factory false declarations))
    (if hasSingleton workshop factory declarations then 1 else 0)

/-- The number of instances that declarations need saved. -/
def savedCount (declarations : List Declaration) : Nat :=
  max (asked workshop factory true declarations)
    (if sharesRecord workshop factory declarations then 1 else 0)

variable {workshop factory}

theorem asked_concat (saved : Bool) (declarations : List Declaration) (declaration : Declaration) :
    asked workshop factory saved (declarations ++ [declaration]) =
      asked workshop factory saved declarations + declaration.asks workshop factory saved := by
  induction declarations with
  | nil => exact Nat.add_comm ..
  | cons head rest ih =>
    rw [List.cons_append]
    unfold asked
    rw [ih, Nat.add_assoc]

theorem hasSingleton_concat (declarations : List Declaration) (declaration : Declaration) :
    hasSingleton workshop factory (declarations ++ [declaration]) =
      (hasSingleton workshop factory declarations ||
        (declaration.form? workshop factory).any fun form => !form.isCollection) := by
  unfold hasSingleton
  rw [List.any_append, List.any_cons, List.any_nil, Bool.or_false]

theorem sharesRecord_concat (declarations : List Declaration) (declaration : Declaration) :
    sharesRecord workshop factory (declarations ++ [declaration]) =
      (sharesRecord workshop factory declarations ||
        (declaration.form? workshop factory).any Form.sharesRecord) := by
  unfold sharesRecord
  rw [List.any_append, List.any_cons, List.any_nil, Bool.or_false]

theorem savedCount_concat_of_none {declarations : List Declaration} {declaration : Declaration}
    (h : declaration.form? workshop factory = none) :
    savedCount workshop factory (declarations ++ [declaration]) =
      savedCount workshop factory declarations := by
  have ha : declaration.asks workshop factory true = 0 := by
    unfold asks
    rw [h]
  unfold savedCount
  rw [asked_concat, sharesRecord_concat, ha, h, Option.any_none, Bool.or_false, Nat.add_zero]

theorem savedCount_le_concat (declarations : List Declaration) (declaration : Declaration) :
    savedCount workshop factory declarations ≤
      savedCount workshop factory (declarations ++ [declaration]) := by
  unfold savedCount
  rw [asked_concat, sharesRecord_concat]
  cases sharesRecord workshop factory declarations with
  | true =>
    rw [Bool.true_or]
    omega
  | false =>
    rw [if_neg Bool.false_ne_true]
    omega

end Declaration

theorem Bench.Tallied.of_roster {σ : Type} {factory : Factory} {base : Nat} {shared : Bool}
    {bench left : Bench σ} (h : Tallied factory base shared bench)
    (hr : left.roster = bench.roster)
    (hc : left.counters.current factory.name = bench.counters.current factory.name) :
    Tallied factory base shared left := by
  refine ⟨hr ▸ h.counted, hr ▸ h.singleton, ⟨?_, ?_, ?_⟩⟩
  · rw [hc, hr, h.lined.counter]
  · rw [hr]
    exact h.lined.saved_le
  · rw [hr]
    exact h.lined.outline

namespace Block

open Declaration

variable {σ : Type}

/-! ## The count so far -/

/-- What holds after declarations that have all succeeded. -/
structure Tally (workshop : Workshop) (factory : Factory) (base : Nat)
    (declarations : List Declaration) (block : Block σ) : Prop where
  catalog : block.workshop.catalog = workshop.catalog
  settings : block.workshop.settings = workshop.settings
  tallied : Bench.Tallied factory base (sharesRecord workshop factory.name declarations)
    (block.bench factory.name)
  claimed : ∀ saved, (block.bench factory.name).roster.claimed saved =
    asked workshop factory.name saved declarations
  singleton : (block.bench factory.name).roster.hasSingleton =
    hasSingleton workshop factory.name declarations

/-- What a declaration of the factory answers and inserts after others. -/
structure Declares (workshop : Workshop) (factory : Factory) (before : List Declaration)
    (declaration : Declaration) (form : Form) (block : Block (Journal σ)) (ref : Ref)
    (left : Block (Journal σ)) : Prop where
  positions : form.isCollection = true → declaration.arguments ≠ .none →
    ref.positions = List.range' (asked workshop factory.name (!form.isHash) before)
      declaration.arguments.asked
  -- One row for each newly saved instance, in the order of the positions.
  insertions : left.store.insertions = block.store.insertions ++
    (left.bench factory.name).roster.rows factory.model
      (savedCount workshop factory.name before)
      (savedCount workshop factory.name (before ++ [declaration]))

variable {workshop : Workshop} {factory : Factory} {base : Nat} {declarations : List Declaration}

theorem Tally.savedCount_eq {block : Block σ}
    (h : Tally workshop factory base declarations block) :
    (block.bench factory.name).roster.savedCount
        (sharesRecord workshop factory.name declarations) =
      savedCount workshop factory.name declarations := by
  unfold Roster.savedCount savedCount
  rw [← h.claimed true]
  rfl

theorem Tally.size_eq {block : Block σ} (h : Tally workshop factory base declarations block) :
    (block.bench factory.name).roster.size = instanceCount workshop factory.name declarations := by
  unfold instanceCount
  rw [h.tallied.counted.size, h.singleton, ← h.claimed true, ← h.claimed false]
  rfl

theorem Tally.resolveName {block : Block σ} (h : Tally workshop factory base declarations block)
    (name : String) : block.workshop.resolveName name = workshop.resolveName name :=
  Workshop.resolveName_congr h.catalog h.settings name

/-- The index that a block gives out first. -/
def firstIndex (workshop : Workshop) (factory : String) : Nat :=
  if workshop.settings.resetsCounters then 0 else workshop.counters.current factory

theorem start_tally (store : σ) :
    Tally workshop factory (firstIndex workshop factory.name) [] (start workshop store) := by
  have hc : (start workshop store).workshop.counters.current factory.name =
      firstIndex workshop factory.name := by
    unfold firstIndex start Workshop.startingBlock
    split <;> rfl
  refine ⟨start_catalog workshop store, start_settings workshop store,
    ⟨⟨nofun, rfl⟩, nofun, ⟨hc, Nat.le_refl _, nofun⟩⟩, fun saved => ?_, rfl⟩
  cases saved <;> rfl

variable [RecordStore σ] {declaration : Declaration} {block left : Block (Journal σ)} {ref : Ref}

theorem Tally.declare_self (h : Tally workshop factory base declarations block)
    (hf : workshop.catalog.factory? factory.name = some factory)
    (hd : declare declaration.name declaration.arguments block = .ok ref left) {form : Form}
    (hform : declaration.form? workshop factory.name = some form) :
    Tally workshop factory base (declarations ++ [declaration]) left ∧
      Declares workshop factory declarations declaration form block ref left := by
  obtain ⟨factory', bench, hr, hf', hb, rfl⟩ := declare_eq_ok hd
  rw [h.resolveName] at hr
  have hresolved : ref.factory = factory.name ∧ ref.form = form := by
    unfold Declaration.form? at hform
    rw [hr] at hform
    dsimp only at hform
    split at hform
    · rename_i hname
      exact ⟨hname, Option.some.inj hform⟩
    · cases hform
  -- The factory and the form are those that the name stands for in the workshop at the start.
  obtain ⟨hname, rfl⟩ := hresolved
  rw [hname] at hf' hb ⊢
  rw [h.catalog, hf] at hf'
  cases hf'
  have hdecl := Bench.declare_tally declaration.name ref.form declaration.arguments h.tallied
  rw [hb] at hdecl
  have hshared : sharesRecord workshop factory.name (declarations ++ [declaration]) =
      (sharesRecord workshop factory.name declarations || ref.form.sharesRecord) := by
    rw [sharesRecord_concat, hform, Option.any_some]
  have hclaimed : ∀ saved, bench.roster.claimed saved =
      asked workshop factory.name saved (declarations ++ [declaration]) := by
    intro saved
    rw [hdecl.claimed, h.claimed, asked_concat]
    unfold asks
    rw [hform]
  have ht : Tally workshop factory base (declarations ++ [declaration])
      (block.setBench factory.name bench) := by
    refine ⟨h.catalog, h.settings, ?_, fun saved => ?_, ?_⟩
    · rw [bench_setBench, hshared]
      exact hdecl.tallied
    · rw [bench_setBench, hclaimed]
    · rw [bench_setBench, hdecl.singleton, h.singleton, hasSingleton_concat, hform, Option.any_some]
  refine ⟨ht, fun hc hn => ?_, ?_⟩
  · rw [hdecl.positions hc hn, h.claimed]
  · have hsaved := ht.savedCount_eq
    rw [bench_setBench, hshared] at hsaved
    rw [bench_setBench, ← hsaved, ← h.savedCount_eq]
    exact hdecl.insertions

theorem Tally.declare_other (h : Tally workshop factory base declarations block)
    (hd : declare declaration.name declaration.arguments block = .ok ref left)
    (hform : declaration.form? workshop factory.name = none) :
    Tally workshop factory base (declarations ++ [declaration]) left := by
  obtain ⟨factory', bench, hr, hf', hb, rfl⟩ := declare_eq_ok hd
  have hname : factory'.name = ref.factory :=
    block.workshop.catalog.name_of_factory _ _ hf'
  rw [h.resolveName] at hr
  -- The name would otherwise stand for a form of this factory.
  have hne : factory.name ≠ ref.factory := by
    intro he
    unfold Declaration.form? at hform
    rw [hr] at hform
    dsimp only at hform
    rw [if_pos he.symm] at hform
    cases hform
  have hroster := bench_setBench_of_ne block bench hne
  have hcounter : bench.counters.current factory.name =
      (block.bench ref.factory).counters.current factory.name := by
    have hc := Bench.declare_counters_of_ne declaration.name ref.form declaration.arguments
      (block.bench ref.factory) (hname.symm ▸ hne)
    rwa [after_of_ok hb] at hc
  refine ⟨h.catalog, h.settings, ?_, fun saved => ?_, ?_⟩
  · rw [sharesRecord_concat, hform, Option.any_none, Bool.or_false]
    exact h.tallied.of_roster hroster hcounter
  · rw [hroster, h.claimed, asked_concat]
    unfold asks
    rw [hform, Nat.add_zero]
  · rw [hroster, h.singleton, hasSingleton_concat, hform, Option.any_none, Bool.or_false]

theorem Tally.declare (h : Tally workshop factory base declarations block)
    (hf : workshop.catalog.factory? factory.name = some factory)
    (hd : Block.declare declaration.name declaration.arguments block = .ok ref left) :
    Tally workshop factory base (declarations ++ [declaration]) left := by
  cases hform : declaration.form? workshop factory.name with
  | some form => exact (h.declare_self hf hd hform).1
  | none => exact h.declare_other hd hform

/-! ## Runs -/

/-- The rows inserted by those declarations of a run that are about one factory. -/
def insertedBy (workshop : Workshop) (factory : String) :
    List Declaration → Block (Journal σ) → List (String × AttributeMap)
  | [], _ => []
  | declaration :: rest, block =>
    let left := after (Block.declare declaration.name declaration.arguments) block
    let rows := left.store.insertions.drop block.store.insertions.length
    (if (declaration.form? workshop factory).isSome then rows else []) ++
      insertedBy workshop factory rest left

theorem insertedBy_nil (name : String) : insertedBy workshop name [] block = [] := rfl

theorem insertedBy_cons {rest : List Declaration} (name : String)
    (h : Block.declare declaration.name declaration.arguments block = .ok ref left) :
    insertedBy workshop name (declaration :: rest) block =
      (if (declaration.form? workshop name).isSome then
        left.store.insertions.drop block.store.insertions.length else []) ++
          insertedBy workshop name rest left := by
  show (if _ then List.drop _ (after (Block.declare declaration.name declaration.arguments)
    block).store.insertions else []) ++ insertedBy workshop name rest (after _ block) = _
  rw [after_of_ok h]

theorem performAll_declaration_cons {rest : List Declaration} :
    performAll ((declaration :: rest).map attempt) block = .ok () left ↔
      ∃ ref middle, Block.declare declaration.name declaration.arguments block = .ok ref middle ∧
        performAll (rest.map attempt) middle = .ok () left := by
  rw [List.map_cons, performAll_cons]
  cases hd : Block.declare declaration.name declaration.arguments block with
  | ok ref middle =>
    have hp : perform declaration.attempt.statement block = .ok (.declared ref) middle :=
      bind_of_ok hd
    rw [hp]
    constructor
    · intro h
      exact ⟨ref, middle, rfl, h⟩
    · rintro ⟨ref', middle', he, h⟩
      cases he
      exact h
  | error error middle =>
    have hp : perform declaration.attempt.statement block = .error error middle :=
      bind_of_error hd
    rw [hp]
    constructor
    · intro h
      cases h
    · rintro ⟨ref', middle', he, -⟩
      cases he

theorem performAll_declarations_append {before rest : List Declaration} :
    performAll ((before ++ rest).map attempt) block = .ok () left ↔
      ∃ middle, performAll (before.map attempt) block = .ok () middle ∧
        performAll (rest.map attempt) middle = .ok () left := by
  rw [List.map_append, performAll_append, bind_eq_ok_iff]
  constructor
  · rintro ⟨⟨⟩, middle, hb, hr⟩
    exact ⟨middle, hb, hr⟩
  · rintro ⟨middle, hb, hr⟩
    exact ⟨(), middle, hb, hr⟩

theorem performAll_declarations_concat :
    performAll ((declarations ++ [declaration]).map attempt) block = .ok () left ↔
      ∃ middle ref, performAll (declarations.map attempt) block = .ok () middle ∧
        Block.declare declaration.name declaration.arguments middle = .ok ref left := by
  rw [performAll_declarations_append]
  constructor
  · rintro ⟨middle, hb, hr⟩
    obtain ⟨ref, left', hd, hl⟩ := performAll_declaration_cons.mp hr
    cases hl
    exact ⟨middle, ref, hb, hd⟩
  · rintro ⟨middle, ref, hb, hd⟩
    exact ⟨middle, hb, performAll_declaration_cons.mpr ⟨ref, left, hd, rfl⟩⟩

theorem insertedBy_append {before rest : List Declaration} (name : String)
    (h : performAll (before.map attempt) block = .ok () left) :
    insertedBy workshop name (before ++ rest) block =
      insertedBy workshop name before block ++ insertedBy workshop name rest left := by
  induction before generalizing block with
  | nil =>
    cases h
    rfl
  | cons declaration before ih =>
    obtain ⟨ref, middle, hd, hr⟩ := performAll_declaration_cons.mp h
    rw [List.cons_append, insertedBy_cons name hd, insertedBy_cons name hd, ih hr,
      List.append_assoc]

theorem performAll_tally {store : Journal σ}
    (hf : workshop.catalog.factory? factory.name = some factory)
    (h : performAll (declarations.map attempt) (start workshop store) = .ok () block) :
    Tally workshop factory (firstIndex workshop factory.name) declarations block := by
  induction declarations using List.reverseRecOn generalizing block with
  | nil =>
    cases h
    exact start_tally store
  | append_singleton declarations declaration ih =>
    obtain ⟨middle, ref, hb, hd⟩ := performAll_declarations_concat.mp h
    exact (ih hb).declare hf hd

theorem insertedBy_length {store : Journal σ}
    (hf : workshop.catalog.factory? factory.name = some factory)
    (h : performAll (declarations.map attempt) (start workshop store) = .ok () block) :
    (insertedBy workshop factory.name declarations (start workshop store)).length =
      savedCount workshop factory.name declarations := by
  induction declarations using List.reverseRecOn generalizing block with
  | nil => rfl
  | append_singleton declarations declaration ih =>
    -- Declarations before the last one leave the count with which the last one starts.
    obtain ⟨middle, ref, hb, hd⟩ := performAll_declarations_concat.mp h
    have ht := performAll_tally hf hb
    rw [insertedBy_append factory.name hb, List.length_append, ih hb]
    rw [insertedBy_cons factory.name hd, insertedBy_nil, List.append_nil]
    cases hform : declaration.form? workshop factory.name with
    | none =>
      rw [Option.isSome_none, if_neg Bool.false_ne_true, savedCount_concat_of_none hform]
      rfl
    | some form =>
      obtain ⟨ht', hdecl⟩ := ht.declare_self hf hd hform
      have hle := ht'.tallied.lined.saved_le
      rw [ht'.savedCount_eq] at hle
      have hmono : savedCount workshop factory.name declarations ≤
          savedCount workshop factory.name (declarations ++ [declaration]) :=
        savedCount_le_concat declarations declaration
      rw [Option.isSome_some, if_pos rfl, hdecl.insertions, List.drop_left,
        Roster.rows_length hle]
      omega

/-- What declarations that all succeed leave of a factory, and what each of them answered. -/
structure ClosedForm (workshop : Workshop) (factory : Factory) (declarations : List Declaration)
    (first block : Block (Journal σ)) : Prop where
  size : (block.bench factory.name).roster.size =
    instanceCount workshop factory.name declarations
  index : ∀ position item, (block.bench factory.name).roster.instance? position = some item →
    item.index = firstIndex workshop factory.name + position
  persisted : ∀ position item,
    (block.bench factory.name).roster.instance? position = some item →
      (item.isPersisted = true ↔ position < savedCount workshop factory.name declarations)
  counter : block.workshop.counters.current factory.name =
    firstIndex workshop factory.name + instanceCount workshop factory.name declarations
  statements : ∀ before declaration rest form, declarations = before ++ declaration :: rest →
    declaration.form? workshop factory.name = some form →
      ∃ middle ref left, performAll (before.map attempt) first = .ok () middle ∧
        Block.declare declaration.name declaration.arguments middle = .ok ref left ∧
        performAll (rest.map attempt) left = .ok () block ∧
        Declares workshop factory before declaration form middle ref left
  inserted : (insertedBy workshop factory.name declarations first).length =
    savedCount workshop factory.name declarations

/-- The closed form of a block of declarations, over any store, for every factory. -/
theorem performAll_closedForm (workshop : Workshop) (store : Journal σ)
    (declarations : List Declaration) (block : Block (Journal σ)) (factory : Factory)
    (hf : workshop.catalog.factory? factory.name = some factory)
    (h : performAll (declarations.map attempt) (start workshop store) = .ok () block) :
    ClosedForm workshop factory declarations (start workshop store) block := by
  have ht := performAll_tally hf h
  have hout := ht.tallied.lined.outline
  rw [ht.savedCount_eq] at hout
  refine ⟨ht.size_eq, fun p item hi => congrArg Prod.fst (hout p item hi), fun p item hi => ?_, ?_,
    fun before declaration rest form he hform => ?_, insertedBy_length hf h⟩
  · have hp : item.isPersisted = decide (p < savedCount workshop factory.name declarations) :=
      congrArg Prod.snd (hout p item hi)
    rw [hp, decide_eq_true_iff]
  · rw [← ht.size_eq]
    exact ht.tallied.lined.counter
  -- The run is split around the declaration, and the count is taken in front of it.
  · rw [he] at h
    obtain ⟨middle, hb, hr⟩ := performAll_declarations_append.mp h
    obtain ⟨ref, left, hd, hl⟩ := performAll_declaration_cons.mp hr
    have hdecl := ((performAll_tally hf hb).declare_self hf hd hform).2
    exact ⟨middle, ref, left, hb, hd, hl, hdecl⟩

/-- Two of three instances are saved, and indices go on from those of earlier blocks. -/
theorem performAll_closedForm_of_mixed :
    let user : Factory := { name := "user", model := "User" }
    let workshop : Workshop :=
      { catalog := (∅ : Catalog).register user
        counters := ({} : Counters).advance "user" 5
        settings := { resetsCounters := false } }
    let store : Journal Database := { store := {} }
    let declarations : List Declaration :=
      [⟨"user_", .none⟩, ⟨"users_", .count 3⟩, ⟨"users", .overrides [∅, ∅]⟩]
    Ends (performAll (declarations.map attempt) (start workshop store))
      (fun _ block => block.workshop.counters.current "user" = 8 ∧
        (instanceCount workshop "user" declarations, savedCount workshop "user" declarations) =
          (3, 2) ∧
        ClosedForm workshop user declarations (start workshop store) block)
      (fun _ _ => False) := by
  intro user workshop store declarations
  have hc : Ends (performAll (declarations.map attempt) (start workshop store))
      (fun _ block => block.workshop.counters.current "user" = 8 ∧
        (instanceCount workshop "user" declarations, savedCount workshop "user" declarations) =
          (3, 2)) (fun _ _ => False) := by
    decide +kernel
  cases h : performAll (declarations.map attempt) (start workshop store) with
  | ok answer block =>
    rw [h] at hc
    exact ⟨hc.1, hc.2, performAll_closedForm workshop store declarations block user rfl h⟩
  | error error block =>
    rw [h] at hc
    exact hc

end Block

end Fixtures
