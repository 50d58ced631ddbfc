import Fixtures.Proofs.Block.WellFormed
import Fixtures.Proofs.Context.Bindings
import Fixtures.Store.Database

/-!
# Accessors of declared names

A name that was declared in a block is an accessor of the block's context, with the meaning that it
had in the statement (`Workshop.run_accessor`).  Nothing in the rest of the run takes it back: no
failure, caught or not, undoes that a form was declared, and changes of the catalog have no part in
what the context binds.
-/

namespace Fixtures

theorem Roster.Counted.singletonInstance? {roster : Roster} (hc : roster.Counted)
    (h : roster.hasSingleton = true) : ∃ item, roster.singletonInstance? = some item := by
  have hsize := hc.size
  rw [if_pos h] at hsize
  obtain ⟨position, hp⟩ := Option.isSome_iff_exists.mp h
  have hz := hc.singleton position hp
  have hlt : position < roster.size := by omega
  unfold Roster.singletonInstance?
  rw [hp]
  exact Option.isSome_iff_exists.mp (lt_size_iff.mp hlt)

namespace Block

variable {σ : Type} {block : Block σ} {factory name : String} {form : Form}

/-- The factory has a roster in which the form is declared. -/
def Declared (factory : String) (form : Form) (block : Block σ) : Prop :=
  ∃ roster, block.rosters.get? factory = some roster ∧ roster.declares form = true

theorem Declared.bench (h : block.Declared factory form) :
    (block.bench factory).roster.declares form = true := by
  obtain ⟨roster, hr, hd⟩ := h
  unfold Block.bench
  rw [hr]
  exact hd

theorem declared_setBench {bench : Bench σ}
    (h : name = factory → bench.roster.declares form = true)
    (ho : name ≠ factory → block.Declared factory form) :
    (block.setBench name bench).Declared factory form := by
  unfold Declared
  show ∃ roster, (block.rosters.insert name bench.roster).get? factory = some roster ∧ _
  by_cases hn : name = factory
  · rw [hn, SortedMap.get?_insert_self]
    exact ⟨bench.roster, rfl, h hn⟩
  · rw [SortedMap.get?_insert_of_ne _ _ (Ne.symm hn)]
    exact ho hn

theorem Declared.withInstance {roster : Roster} {position : Nat}
    (h : block.Declared factory form) (hr : block.rosters.get? name = some roster)
    (left : Instance × σ) :
    (block.withInstance name roster position left).Declared factory form := by
  rw [withInstance_eq_setBench hr]
  refine declared_setBench (fun hn => ?_) fun _ => h
  -- The marks of a roster have nothing to do with its instances.
  rw [hn]
  exact h.bench

/-- Where the form is declared it can be read, unless a record is asked for that was never saved. -/
theorem Declared.read_error (h : block.Declared factory form) (hw : block.WellFormed)
    {enumeration : Enumeration}
    (hb : (block.context enumeration).bindings.get? name = some (factory, form)) {error : Error}
    (he : (block.context enumeration).read name = .error error) : error = .notPersisted name := by
  obtain ⟨roster, hr, hd⟩ := h
  unfold Roster.declares at hd
  apply Context.read_error hb hr _ _ he
  · intro hc
    rw [if_neg (by rw [hc]; exact Bool.false_ne_true)] at hd
    exact (hw _ _ hr).singletonInstance? hd
  · intro hc
    rwa [if_pos hc] at hd

variable [RecordStore σ]

theorem declared_kept (factory : String) (form : Form) : Kept (σ := σ) (Declared factory form) where
  declare name arguments block h := by
    rcases after_declare name arguments block with he | ⟨other, form', -, -, he⟩
    · rwa [he]
    · rw [he]
      refine declared_setBench (fun hn => ?_) fun _ => h
      exact Bench.declares_after
        (Bench.moves_compositional.declare Moves.throw name form' arguments) (hn.symm ▸ h.bench)
  link block block' hs h := by
    cases hs with
    | key field id hr hi => exact h.withInstance hr _
    | join => exact h
  catalog _ _ h := h

theorem settings_kept (settings : Settings) :
    Kept fun block : Block σ => block.workshop.settings = settings where
  declare name arguments block h := by
    rcases after_declare name arguments block with he | ⟨other, form', -, -, he⟩
    · rwa [he]
    · rw [he]
      exact h
  link block block' hs h := by
    rw [hs.workshop]
    exact h
  catalog _ _ h := h

/-- A declaration that succeeds declares the form that its name has among those of the factory. -/
theorem declared_of_declare {arguments : Arguments} {ref : Ref} {left : Block σ}
    (h : declare name arguments block = .ok ref left) :
    (Names.derive block.workshop.settings ref.factory).form? name = some ref.form ∧
      left.Declared ref.factory ref.form := by
  obtain ⟨found, bench, hr, hf, hb, rfl⟩ := declare_eq_ok h
  refine ⟨Catalog.form?_of_resolveName hr, declared_setBench (fun _ => ?_) fun hn => absurd rfl hn⟩
  have hd : Ends (Bench.declare found name ref.form arguments (block.bench ref.factory))
      (fun _ left => left.roster.declares ref.form = true) fun _ _ => True :=
    Bench.declares_declare name ref.form arguments _
  rwa [hb] at hd

/-! ## Names declared by a statement -/

/-- In this block the statement declares the name, whether by itself or to link what it stands
for, and gets the reference for it. -/
inductive DeclaresName (block : Block σ) : Statement → String → Ref → Prop
  | declare {name : String} {arguments : Arguments} {ref : Ref} {left : Block σ}
      (h : declare name arguments block = .ok ref left) :
      DeclaresName block (.declare name arguments) name ref
  | source {source target : String} {ref : Ref} {left : Block σ}
      (h : declare source .none block = .ok ref left) :
      DeclaresName block (.linkNames source target) source ref
  | target {source target : String} {sourceRef ref : Ref} {middle left : Block σ}
      (hs : declare source .none block = .ok sourceRef middle)
      (h : declare target .none middle = .ok ref left) :
      DeclaresName block (.linkNames source target) target ref

/-- The name has the form, and what is left after the statement has it declared, even if the
statement fails in the end. -/
theorem DeclaresName.declared {statement : Statement} {ref : Ref}
    (h : DeclaresName block statement name ref) :
    (Names.derive block.workshop.settings ref.factory).form? name = some ref.form ∧
      (after (perform statement) block).Declared ref.factory ref.form := by
  have hk := declared_kept (σ := σ) ref.factory ref.form
  cases h with
  | declare h =>
    obtain ⟨hf, hd⟩ := declared_of_declare h
    refine ⟨hf, ?_⟩
    rw [after_perform_declare, after_of_ok h]
    exact hd
  | @source _ target _ left h =>
    obtain ⟨hf, hd⟩ := declared_of_declare h
    refine ⟨hf, ?_⟩
    have ha : after (linkNames name target) block = _ := after_bind_of_ok h
    rw [after_perform_linkNames, ha]
    exact ((hk.moves_declare target .none).bind fun _ => hk.moves_link _).keeps hd
  | @target source _ _ _ middle left hs h =>
    obtain ⟨hf, hd⟩ := declared_of_declare h
    have hsettings := (settings_kept _).declare source .none block rfl
    rw [after_of_ok hs] at hsettings
    refine ⟨hsettings ▸ hf, ?_⟩
    have ha : after (linkNames source name) block = _ := after_bind_of_ok hs
    rw [after_perform_linkNames, ha, after_bind_of_ok h]
    exact (hk.moves_link _).keeps hd

end Block

theorem Workshop.run_eq_ok {σ : Type} [RecordStore σ] {enumeration : Enumeration}
    {workshop : Workshop} {store : σ} {attempts : List Attempt} {context : Context}
    (h : (workshop.run enumeration store attempts).1 = .ok context) :
    ∃ final, Block.performAll attempts (Block.start workshop store) = .ok () final ∧
      final.context enumeration = context := by
  unfold run at h
  cases hp : Block.performAll attempts (Block.start workshop store) with
  | ok answer final =>
    rw [hp] at h
    cases h
    exact ⟨final, rfl, rfl⟩
  | error error final =>
    rw [hp] at h
    cases h

/-- A name that was declared in a block that completes is bound to what it stood for, if no other
factory of the block has it, and reading it never fails for want of an accessor. -/
theorem Workshop.run_accessor {σ : Type} [RecordStore σ] (enumeration : Enumeration)
    (workshop : Workshop) (store : σ)
    {before rest : List Attempt} {attempt : Attempt} {context : Context} {name : String} {ref : Ref}
    (h : (workshop.run enumeration store (before ++ attempt :: rest)).1 = .ok context)
    (hd : Block.DeclaresName (after (Block.performAll before) (Block.start workshop store))
      attempt.statement name ref)
    (hu : ∀ other ∈ context.rosters.keys, other ≠ ref.factory →
      ∀ form, (Names.derive workshop.settings other).get form ≠ name) :
    context.binding name = .ok (ref.factory, ref.form) ∧
      ∀ error, context.read name = .error error → error.isMissingAccessor = false := by
  obtain ⟨final, hp, rfl⟩ := run_eq_ok h
  have hfinal := after_of_ok hp
  -- What holds at the end because every statement keeps it.
  have hw : final.WellFormed := by
    rw [← hfinal]
    exact Block.wellFormed_kept.performAll _ (Block.start_wellFormed workshop store)
  have hs : final.workshop.settings = workshop.settings := by
    rw [← hfinal]
    exact (Block.settings_kept _).performAll _ (Block.start_settings workshop store)
  have hs' : (after (Block.performAll before) (Block.start workshop store)).workshop.settings =
      workshop.settings :=
    (Block.settings_kept _).performAll _ (Block.start_settings workshop store)
  obtain ⟨hform, hd⟩ := hd.declared
  rw [hs'] at hform
  rw [Block.performAll_append, bind_eq_ok_iff] at hp
  obtain ⟨⟨⟩, block, hb, hp⟩ := hp
  rw [after_of_ok hb] at hd
  have hdeclared : final.Declared ref.factory ref.form := by
    rw [← Block.after_performAll_cons hp]
    exact (Block.declared_kept _ _).performAll rest hd
  obtain ⟨roster, hr, -⟩ := id hdeclared
  have hbound : (final.context enumeration).bindings.get? name = some (ref.factory, ref.form) := by
    unfold Block.context
    rw [hs]
    exact Context.get?_bindings_of_unique enumeration (SortedMap.mem_keys_iff.mpr ⟨roster, hr⟩)
      hform hu
  refine ⟨?_, fun error he => ?_⟩
  · unfold Context.binding
    rw [hbound]
  · rw [hdeclared.read_error hw hbound he]
    rfl

/-- The factory is registered only in the block and gone at its end, a statement before and one
after fail, and the plural is an irregular one. -/
theorem Workshop.run_accessor_of_irregular :
    let person : Factory := { name := "person", model := "Person" }
    let workshop : Workshop :=
      { settings := { irregularPlurals := (∅ : SortedMap String).insert "person" "people" } }
    let before : List Attempt :=
      [⟨.register person, false⟩, ⟨.declare "person" (.count 2), true⟩]
    let attempt : Attempt := ⟨.declare "people" (.count 1), false⟩
    let rest : List Attempt := [⟨.clearCatalog, false⟩, ⟨.declare "people" .none, true⟩]
    ∃ context, (workshop.run .listed ({} : Database) (before ++ attempt :: rest)).1 = .ok context ∧
      context.binding "people" = .ok ("person", .collection) ∧
      ∀ error, context.read "people" = .error error → error.isMissingAccessor = false := by
  intro person workshop before attempt rest
  have hkeys : (workshop.run .listed ({} : Database) (before ++ attempt :: rest)).1.toOption.map
      (·.rosters.keys) = some ["person"] := by decide +kernel
  have hd : Ends (Block.declare "people" (.count 1)
      (after (Block.performAll before) (Block.start workshop ({} : Database))))
      (fun ref _ => ref.factory = "person" ∧ ref.form = .collection) (fun _ _ => False) := by
    decide +kernel
  cases hr : (workshop.run .listed ({} : Database) (before ++ attempt :: rest)).1 with
  | error error =>
    rw [hr] at hkeys
    cases hkeys
  | ok context =>
    rw [hr] at hkeys
    have hperson : context.rosters.keys = ["person"] := Option.some.inj hkeys
    cases hdeclare : Block.declare "people" (.count 1)
        (after (Block.performAll before) (Block.start workshop ({} : Database))) with
    | error error left =>
      rw [hdeclare] at hd
      exact hd.elim
    | ok ref left =>
      rw [hdeclare] at hd
      have hu : ∀ other ∈ context.rosters.keys, other ≠ ref.factory →
          ∀ form, (Names.derive workshop.settings other).get form ≠ "people" := by
        intro other ho hne
        rw [hperson, List.mem_singleton] at ho
        exact absurd (ho.trans hd.1.symm) hne
      have hrun : context.binding "people" = .ok (ref.factory, ref.form) ∧
          ∀ error, context.read "people" = .error error → error.isMissingAccessor = false :=
        Workshop.run_accessor .listed workshop ({} : Database) hr (.declare hdeclare) hu
      rw [hd.1, hd.2] at hrun
      exact ⟨context, rfl, hrun⟩

end Fixtures
