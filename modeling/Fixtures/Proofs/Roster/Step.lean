import Fixtures.Proofs.Factory.Counters
import Fixtures.Proofs.Roster.Instance
import Fixtures.Proofs.Roster.Parts

/-!
# Steps of a declaration

Whatever a declaration does to a bench, failing or not, it does in steps of five kinds
(`Bench.Step`): it notes claims, spends an index, adds an instance, gives overrides to an instance,
or saves one.  What every step keeps is kept by every declaration.  No step takes back that a form
was declared (`Bench.Onward`), so the form of a declaration that succeeded stays declared
(`Bench.declares_declare`).
-/

namespace Fixtures

open Relation

namespace Roster

/-- A name of the singleton was declared, or a name of the collection, as the form has it. -/
def declares (roster : Roster) (form : Form) : Bool :=
  if form.isCollection then roster.hasCollection else roster.hasSingleton

theorem declares_withSingleton (roster : Roster) (position : Nat) {form : Form}
    (h : roster.declares form = true) :
    ({ roster with singleton := some position } : Roster).declares form = true := by
  cases form with
  | singleton | singletonHash => rfl
  | collection | collectionHash => exact h

theorem declares_withCollection (roster : Roster) {form : Form}
    (h : roster.declares form = true) :
    ({ roster with hasCollection := true } : Roster).declares form = true := by
  cases form with
  | singleton | singletonHash => exact h
  | collection | collectionHash => rfl

theorem declares_withClaimed (roster : Roster) (saved : Bool) (count : Nat) (form : Form) :
    (roster.withClaimed saved count).declares form = roster.declares form := by
  cases saved <;> rfl

end Roster

namespace Bench

variable {σ : Type}

def withInstance (bench : Bench σ) (position : Nat) (left : Instance × σ) : Bench σ :=
  { bench with roster := bench.roster.setInstance position left.1, store := left.2 }

/-- One step of a declaration of a factory. -/
inductive Step [RecordStore σ] (factory : Factory) : Bench σ → Bench σ → Prop
  -- The singleton, the claims and the mark of the collection change, the instances do not.
  | mark (bench : Bench σ) (roster : Roster) (hf : roster.factory = bench.roster.factory)
      (hi : roster.instances = bench.roster.instances) : Step factory bench { bench with roster }
  -- An index is spent without building an instance.
  | spend (bench : Bench σ) : Step factory bench
      { bench with counters := bench.counters.advance factory.name 1 }
  | build (bench : Bench σ) (attributes overrides : AttributeMap)
      (ha : Counters.upcoming factory bench.counters = .ok attributes) :
      Step factory bench
        { bench with
          counters := bench.counters.advance factory.name 1
          roster := bench.roster.push
            { index := bench.counters.current factory.name
              attributes := factory.finish attributes overrides
              overrides } }
  | override (bench : Bench σ) (position : Nat) (item : Instance) (overrides : AttributeMap)
      (hi : bench.roster.instance? position = some item) :
      Step factory bench
        (bench.withInstance position (after (Instance.override overrides) (item, bench.store)))
  | save (bench : Bench σ) (position : Nat) (item : Instance)
      (hi : bench.roster.instance? position = some item) :
      Step factory bench
        (bench.withInstance position (after (Instance.save factory) (item, bench.store)))

theorem Step.counters [RecordStore σ] {factory : Factory} {bench bench' : Bench σ}
    (h : Step factory bench bench') :
    bench'.counters = bench.counters ∨
      bench'.counters = bench.counters.advance factory.name 1 := by
  cases h with
  | mark => exact Or.inl rfl
  | spend => exact Or.inr rfl
  | build => exact Or.inr rfl
  | override => exact Or.inl rfl
  | save => exact Or.inl rfl

/-- A step after which every form that was declared still is. -/
structure Onward [RecordStore σ] (factory : Factory) (bench bench' : Bench σ) : Prop where
  step : Step factory bench bench'
  declares : ∀ form, bench.roster.declares form = true → bench'.roster.declares form = true

/-! ## What an operation on one instance leaves -/

section

variable {α : Type} (operation : EStateM Error (Instance × σ) α) {position : Nat} {bench : Bench σ}

theorem onInstance_of_none (h : bench.roster.instance? position = none) :
    onRoster (Roster.onInstance position operation) bench =
      .error (.noSuchAccessor s!"{bench.roster.factory}[{position}]") bench := by
  unfold onRoster
  rw [Roster.onInstance_of_none operation _ h]

theorem onInstance_of_some {item : Instance} (h : bench.roster.instance? position = some item) :
    onRoster (Roster.onInstance position operation) bench =
      match operation (item, bench.store) with
      | .ok result left => .ok result (bench.withInstance position left)
      | .error error left => .error error (bench.withInstance position left) := by
  unfold onRoster
  rw [Roster.onInstance_of_some operation _ h]
  cases operation (item, bench.store) <;> rfl

theorem after_onInstance {item : Instance} (h : bench.roster.instance? position = some item) :
    after (onRoster (Roster.onInstance position operation)) bench =
      bench.withInstance position (after operation (item, bench.store)) := by
  have ho := onInstance_of_some operation h
  cases hi : operation (item, bench.store) with
  | ok result left =>
    rw [hi] at ho
    rw [after_of_ok ho, after_of_ok hi]
  | error error left =>
    rw [hi] at ho
    rw [after_of_error ho, after_of_error hi]

/-- An operation on an instance takes a step where there is an instance, if it does so there. -/
theorem moves_onInstance {R : Bench σ → Bench σ → Prop} (position : Nat)
    (hr : ∀ (bench : Bench σ) (item : Instance), bench.roster.instance? position = some item →
      R bench (bench.withInstance position (after operation (item, bench.store)))) :
    Moves R (onRoster (Roster.onInstance position operation)) := by
  intro bench
  cases h : bench.roster.instance? position with
  | none =>
    rw [after_of_error (onInstance_of_none operation h)]
  | some item =>
    rw [after_onInstance operation h]
    exact ReflTransGen.single (hr bench item h)

end

variable [RecordStore σ]

/-- Reading the attributes after giving overrides changes nothing more. -/
theorem after_override_read (overrides : AttributeMap) (state : Instance × σ) :
    after (do Instance.override overrides; return (← get).1.attributes) state =
      after (Instance.override overrides) state := by
  cases h : Instance.override overrides state with
  | ok answer left =>
    rw [after_bind_of_ok h, after_of_ok h]
    rfl
  | error error left => rw [after_bind_of_error h, after_of_error h]

/-! ## What preparing and saving leave alone -/

/-- Nothing but instances and the store has changed. -/
structure Framed (bench left : Bench σ) : Prop where
  marks : left.roster.marks = bench.roster.marks
  counters : left.counters = bench.counters

omit [RecordStore σ] in
theorem framed_onInstance {α : Type} (operation : EStateM Error (Instance × σ) α) (position : Nat)
    (bench : Bench σ) :
    Framed bench (after (onRoster (Roster.onInstance position operation)) bench) := by
  cases hi : bench.roster.instance? position with
  | none =>
    rw [after_of_error (onInstance_of_none operation hi)]
    exact ⟨rfl, rfl⟩
  | some item =>
    rw [after_onInstance operation hi]
    exact ⟨rfl, rfl⟩

theorem framed_saveIf (saved : Bool) (factory : Factory) (position : Nat) (bench : Bench σ) :
    Framed bench (after (saveIf saved factory position) bench) := by
  unfold saveIf
  split
  · exact framed_onInstance _ position bench
  · exact ⟨rfl, rfl⟩

/-- A position that has an instance is prepared without building one. -/
theorem framed_prepare {position : Nat} {bench : Bench σ} (hp : position < bench.roster.size)
    (factory : Factory) (overrides : Option AttributeMap) :
    Framed bench (after (prepare factory position overrides) bench) := by
  show Framed bench (after (if position < bench.roster.size then _ else _) bench)
  rw [if_pos hp]
  cases overrides with
  | none => exact ⟨rfl, rfl⟩
  | some overrides =>
    dsimp only
    rw [discard_eq_bind, after_bind_pure]
    exact framed_onInstance _ position bench

theorem marks_prepare (factory : Factory) (position : Nat) (overrides : Option AttributeMap)
    (bench : Bench σ) :
    (after (prepare factory position overrides) bench).roster.marks = bench.roster.marks := by
  by_cases hp : position < bench.roster.size
  · exact (framed_prepare hp factory overrides).marks
  · show (after (if position < bench.roster.size then _ else _) bench).roster.marks = _
    rw [if_neg hp]
    unfold after
    rw [build_eq]
    cases Counters.upcoming factory bench.counters <;> rfl

/-! ## Declarations in steps -/

variable {factory : Factory}

theorem moves_override (position : Nat) (overrides : AttributeMap) :
    Moves (Onward factory) (onRoster (σ := σ) (Roster.override position overrides)) := by
  unfold Roster.override
  apply moves_onInstance
  intro bench item hi
  rw [after_override_read]
  exact ⟨Step.override bench position item overrides hi, fun _ h => h⟩

theorem moves_build (overrides : AttributeMap) :
    Moves (Onward factory) (build (σ := σ) factory overrides) := by
  intro bench
  apply ReflTransGen.single
  unfold after
  rw [build_eq]
  cases ha : Counters.upcoming factory bench.counters with
  | error error => exact ⟨Step.spend bench, fun _ h => h⟩
  | ok attributes => exact ⟨Step.build bench attributes overrides ha, fun _ h => h⟩

theorem moves_save (position : Nat) :
    Moves (Onward factory)
      (onRoster (Roster.onInstance position (Instance.save (σ := σ) factory))) := by
  apply moves_onInstance
  intro bench item hi
  exact ⟨Step.save bench position item hi, fun _ h => h⟩

theorem moves_mark {change : Roster → Roster} (h : Mark change) :
    Moves (Onward factory) (modifyRoster (σ := σ) change) := by
  apply Moves.modify
  intro bench
  refine ⟨Step.mark bench (change bench.roster) (h.factory _) (h.instances _), fun form hf => ?_⟩
  cases h with
  | singleton position => exact bench.roster.declares_withSingleton position hf
  | claimed saved count => exact (bench.roster.declares_withClaimed saved count form).trans hf
  | collection => exact bench.roster.declares_withCollection hf

theorem moves_compositional :
    Compositional (σ := σ) factory fun _ operation => Moves (Onward factory) operation where
  pure := Moves.pure
  bind := Moves.bind
  read _ hn := Moves.get_bind hn
  override := moves_override
  save := moves_save
  build := moves_build
  mark := moves_mark

theorem moves_declare (name : String) (form : Form) (arguments : Arguments) :
    Moves (Step factory) (declare (σ := σ) factory name form arguments) :=
  (moves_compositional.declare Moves.throw name form arguments).mono fun _ _ h => h.step

/-! ## Declared forms -/

theorem declares_after {α : Type} {operation : EStateM Error (Bench σ) α} {bench : Bench σ}
    {form : Form} (hm : Moves (Onward factory) operation)
    (h : bench.roster.declares form = true) :
    (after operation bench).roster.declares form = true :=
  Moves.keeps (hm.mono fun _ _ ho => ho.declares form) h

/-- If the operation succeeds, the form has been declared. -/
def Declares {α : Type} (form : Form) (operation : EStateM Error (Bench σ) α) : Prop :=
  ∀ bench, Ends (operation bench) (fun _ left => left.roster.declares form = true)
    fun _ _ => True

theorem Declares.of_moves {α : Type} {operation : EStateM Error (Bench σ) α} {form : Form}
    {bench : Bench σ} (hm : Moves (Onward factory) operation)
    (h : bench.roster.declares form = true) :
    Ends (operation bench) (fun _ left => left.roster.declares form = true) fun _ _ => True :=
  (Ends.of_after (P := (·.roster.declares form = true)) (declares_after hm h)).mono
    (fun _ _ h => h) fun _ _ _ => trivial

theorem declares_declareSingleton (overrides : Option AttributeMap) (saved : Bool) {form : Form}
    (hf : form.isCollection = false) :
    Declares form (declareSingleton (σ := σ) factory overrides saved) := by
  intro bench
  show Ends ((if bench.roster.singleton = none ∧ 2 ≤ bench.roster.size then _ else _ :
    EStateM Error (Bench σ) Nat) bench) _ _
  by_cases hu : bench.roster.singleton = none ∧ 2 ≤ bench.roster.size
  · rw [if_pos hu]
    trivial
  · rw [if_neg hu]
    apply Ends.bind (Ends.of_after (P := fun _ => True) trivial)
    intro _ prepared _
    show Ends ((saveIf saved factory _ >>= fun _ => pure _ : EStateM Error (Bench σ) Nat)
      { prepared with
        roster := { prepared.roster with singleton := some (bench.roster.singleton.getD 0) } }) _ _
    apply Declares.of_moves ((moves_compositional.saveIf saved _).bind fun _ => Moves.pure _)
    unfold Roster.declares
    rw [hf]
    rfl

theorem declares_declareCollection (overrides : List (Option AttributeMap)) (saved : Bool)
    {form : Form} (hf : form.isCollection = true) :
    Declares form (declareCollection (σ := σ) factory overrides saved) := by
  intro bench
  show Ends ((claimFrom factory saved _ overrides >>= fun _ => pure _ :
    EStateM Error (Bench σ) (List Nat))
    { bench with roster := { bench.roster with hasCollection := true } }) _ _
  apply Declares.of_moves
    ((moves_compositional.claimFrom saved _ overrides).bind fun _ => Moves.pure _)
  unfold Roster.declares
  rw [hf]
  rfl

/-- A declaration that succeeds declares its form. -/
theorem declares_declare (name : String) (form : Form) (arguments : Arguments) :
    Declares form (declare (σ := σ) factory name form arguments) := by
  unfold declare
  dsimp only
  split
  · exact fun bench => (declares_declareSingleton none _ ‹_› bench).bind fun _ _ h => h
  · exact fun bench => (declares_declareSingleton (some _) _ ‹_› bench).bind fun _ _ h => h
  · exact fun _ => trivial
  · exact fun _ => trivial
  · rename_i hf
    intro bench
    show Roster.declares _ form = true
    unfold Roster.declares
    rw [hf]
    rfl
  · exact declares_declareCollection _ _ ‹_›
  · exact declares_declareCollection _ _ ‹_›

/-! ## Counters -/

/-- What holds of the counters before, and is kept by spending an index, holds after. -/
theorem declare_counters {P : Counters → Prop} (name : String) (form : Form)
    (arguments : Arguments) {bench : Bench σ} (h : P bench.counters)
    (ha : ∀ counters, P counters → P (counters.advance factory.name 1)) :
    P (after (declare factory name form arguments) bench).counters := by
  apply Moves.keeps (P := fun left : Bench σ => P left.counters) _ h
  apply (moves_declare name form arguments).mono
  intro before left hs hb
  -- A step either leaves the counters or spends one index.
  rcases hs.counters with he | he
  · rw [he]
    exact hb
  · rw [he]
    exact ha _ hb

theorem declare_counters_of_ne (name : String) (form : Form) (arguments : Arguments)
    (bench : Bench σ) {other : String} (h : other ≠ factory.name) :
    (after (declare factory name form arguments) bench).counters.current other =
      bench.counters.current other := by
  apply declare_counters (P := fun counters =>
    counters.current other = bench.counters.current other) name form arguments rfl
  intro counters he
  rw [Counters.current_advance_of_ne _ h, he]

end Bench

end Fixtures
