import Fixtures.Proofs.Roster.Step
import Fixtures.Proofs.Store.Graft

/-!
# Declarations among other data

What a declaration does depends on the roster of its factory, on the factory's counter and on the
table of its model, and it changes nothing else.  So a declaration does not notice that its bench is
grafted onto other counters and other tables (`Bench.declare_graft`).
-/

namespace Fixtures

open Database

/-! ## Counters -/

namespace Counters

/-- The counters with the counter of the factory from others. -/
def graft (ground : Counters) (factory : String) (counters : Counters) : Counters :=
  { next := ground.next.graft factory counters.next }

@[simp] theorem word_graft (ground : Counters) (factory : String) (counters : Counters) :
    (ground.graft factory counters).word factory = counters.word factory := by
  unfold word graft
  rw [SortedMap.get?_graft, if_pos rfl]

theorem upcoming_graft (ground : Counters) (factory : Factory) (counters : Counters) :
    upcoming factory (ground.graft factory.name counters) = upcoming factory counters := by
  unfold upcoming current
  rw [word_graft]

theorem graft_advance (ground : Counters) (factory : String) (counters : Counters)
    (count : Nat) :
    ground.graft factory (counters.advance factory count) =
      (ground.graft factory counters).advance factory count := by
  unfold advance
  rw [word_graft]
  unfold graft
  rw [SortedMap.graft_insert]

end Counters

/-! ## Instances -/

namespace Instance

variable {ground : Database} {model : String}

/-- The instance on other ground, where only the table of its model is from its own database. -/
def graft (ground : Database) (model : String) (state : Instance × Database) :
    Instance × Database :=
  (state.1, ground.graft model state.2)

/-- An instance of the model with a database that has the constraints of another. -/
structure Fits (ground : Database) (model : String) (state : Instance × Database) : Prop where
  numbered : state.2.Numbered
  alike : ground.Alike state.2
  model : ∀ record, state.1.record = some record → record.model = model

theorem revise_graft (changes : AttributeMap) :
    Unnoticed (Fits ground model) (graft ground model) (revise changes) := by
  rintro ⟨item, db⟩ h
  cases hr : item.record with
  | none =>
    exact .of_ok (revise_of_none changes db hr)
      (revise_of_none changes (ground.graft model db) hr) ⟨h.numbered, h.alike, h.model⟩
  | some record =>
    have hg := replace_graft (h.model record hr) (record.attributes.overlay changes) db h.alike
    have he := revise_of_some changes db hr
    have he' := revise_of_some changes (ground.graft model db) hr
    have hk := hg.keeps
    rw [hg.result] at he'
    cases hs : RecordStore.replace record (record.attributes.overlay changes) db with
    | ok found left =>
      rw [hs] at he he'
      rw [after_of_ok hs] at hk
      refine .of_ok he he' ⟨h.numbered.replace hs, hk, fun record' hrec => ?_⟩
      rw [← Option.some.inj hrec, (h.numbered.replaced_key hs).1]
      exact h.model record hr
    | error error left =>
      rw [hs] at he he'
      rw [replace_error hs] at he he'
      exact .of_error he he' ⟨h.numbered, h.alike, h.model⟩

theorem override_graft (overrides : AttributeMap) :
    Unnoticed (Fits ground model) (graft ground model) (override overrides) := by
  rintro ⟨item, db⟩ h
  obtain ⟨hr, hk⟩ := revise_graft overrides
    ({ item with overrides := item.overrides.overlay overrides }, db)
    ⟨h.numbered, h.alike, h.model⟩
  exact ⟨hr, hk⟩

theorem save_graft {factory : Factory} (hf : factory.KeepsKeys) :
    Unnoticed (Fits ground factory.model) (graft ground factory.model) (save factory) := by
  rintro ⟨item, db⟩ h
  cases hr : item.record with
  | some record =>
    exact .of_ok (save_of_some factory db hr)
      (save_of_some factory (ground.graft factory.model db) hr) h
  | none =>
    have hi := insert_graft factory.model item.attributes db h.alike
    have he := save_of_none factory db hr
    have he' := save_of_none factory (ground.graft factory.model db) hr
    have hk := hi.keeps
    rw [hi.result] at he'
    cases hs : RecordStore.insert factory.model item.attributes db with
    | error error left =>
      rw [hs] at he he'
      rw [insert_error hs] at he he'
      exact .of_error he he' h
    | ok created middle =>
      rw [hs] at he he'
      rw [after_of_ok hs] at hk
      dsimp only [carry] at he he'
      have hn := h.numbered.insert hs
      have hm : (factory.afterCreating created).model = factory.model := by
        rw [(hf.afterCreating created).1, (insert_eq_ok_iff.mp hs).2.1]
      by_cases hv : (factory.afterCreating created).attributes.sameValues created.attributes
      · rw [if_pos hv] at he he'
        refine .of_ok he he' ⟨hn, hk, fun record hrec => ?_⟩
        rw [← Option.some.inj hrec]
        exact hm
      · rw [if_neg hv] at he he'
        have hg := replace_graft hm (factory.afterCreating created).attributes middle hk
        have hk' := hg.keeps
        rw [hg.result] at he'
        cases hs' : RecordStore.replace (factory.afterCreating created)
          (factory.afterCreating created).attributes middle with
        | ok found left =>
          rw [hs'] at he he'
          rw [after_of_ok hs'] at hk'
          refine .of_ok he he' ⟨hn.replace hs', hk', fun record hrec => ?_⟩
          rw [← Option.some.inj hrec, (hn.replaced_key hs').1]
          exact hm
        | error error left =>
          rw [hs'] at he he'
          rw [replace_error hs'] at he he'
          exact .of_error he he' ⟨hn, hk, h.model⟩

end Instance

/-! ## Benches -/

namespace Bench

/-- The bench on other ground: what belongs to the factory is the bench's own. -/
def graft (ground : Bench Database) (factory : Factory) (bench : Bench Database) :
    Bench Database :=
  { roster := bench.roster
    counters := ground.counters.graft factory.name bench.counters
    store := ground.store.graft factory.model bench.store }

/-- A bench that has instances of the factory's model, and the constraints of the ground. -/
structure Fits (ground : Bench Database) (factory : Factory) (bench : Bench Database) : Prop where
  numbered : bench.store.Numbered
  alike : ground.store.Alike bench.store
  model : ∀ position item, bench.roster.instance? position = some item →
    ∀ record, item.record = some record → record.model = factory.model

variable {ground bench : Bench Database} {factory : Factory}

theorem Fits.part (h : Fits ground factory bench) {position : Nat} {item : Instance}
    (hi : bench.roster.instance? position = some item) :
    Instance.Fits ground.store factory.model (item, bench.store) :=
  ⟨h.numbered, h.alike, h.model position item hi⟩

theorem Fits.withInstance (h : Fits ground factory bench) {position : Nat} {item : Instance}
    (hi : bench.roster.instance? position = some item) {left : Instance × Database}
    (hl : Instance.Fits ground.store factory.model left) :
    Fits ground factory (bench.withInstance position left) := by
  refine ⟨hl.numbered, hl.alike, fun p other ho => ?_⟩
  change (bench.roster.setInstance position left.1).instance? p = some other at ho
  rw [Roster.instance?_setInstance hi] at ho
  split at ho
  · cases ho
    exact hl.model
  · exact h.model p other ho

theorem onInstance_graft {α : Type} {operation : EStateM Error (Instance × Database) α}
    (h : Unnoticed (Instance.Fits ground.store factory.model)
      (Instance.graft ground.store factory.model) operation) (position : Nat) :
    Unnoticed (Fits ground factory) (ground.graft factory)
      (onRoster (Roster.onInstance position operation)) := by
  intro bench hb
  cases hi : bench.roster.instance? position with
  | none =>
    have hi' : (ground.graft factory bench).roster.instance? position = none := hi
    exact .of_error (onInstance_of_none operation hi) (onInstance_of_none operation hi') hb
  | some item =>
    have hi' : (ground.graft factory bench).roster.instance? position = some item := hi
    have hg := h (item, bench.store) (hb.part hi)
    have hr : operation (item, (ground.graft factory bench).store) =
      carry (Instance.graft ground.store factory.model) (operation (item, bench.store)) := hg.result
    have hk := hg.keeps
    have ho := onInstance_of_some operation hi
    have ho' := onInstance_of_some operation hi'
    rw [hr] at ho'
    cases hs : operation (item, bench.store) with
    | ok answer left =>
      rw [hs] at ho ho'
      rw [after_of_ok hs] at hk
      exact .of_ok ho ho' (hb.withInstance hi hk)
    | error error left =>
      rw [hs] at ho ho'
      rw [after_of_error hs] at hk
      exact .of_error ho ho' (hb.withInstance hi hk)

theorem build_graft (overrides : AttributeMap) :
    Unnoticed (Fits ground factory) (ground.graft factory) (build factory overrides) := by
  intro bench hb
  have hword : (ground.graft factory bench).counters.current factory.name =
      bench.counters.current factory.name := congrArg UInt64.toNat (Counters.word_graft ..)
  have hupcoming : Counters.upcoming factory (ground.graft factory bench).counters =
      Counters.upcoming factory bench.counters := Counters.upcoming_graft ..
  have hadvance : (ground.graft factory bench).counters.advance factory.name 1 =
      ground.counters.graft factory.name (bench.counters.advance factory.name 1) :=
    (Counters.graft_advance ..).symm
  refine ⟨?_, ?_⟩
  · rw [build_eq, build_eq, hupcoming, hadvance, hword]
    cases Counters.upcoming factory bench.counters <;> rfl
  · unfold after
    rw [build_eq]
    cases Counters.upcoming factory bench.counters with
    | error error => exact ⟨hb.numbered, hb.alike, hb.model⟩
    | ok attributes =>
      refine ⟨hb.numbered, hb.alike, fun p item hi => ?_⟩
      -- The new instance has no record.
      change (bench.roster.push _).instance? p = some item at hi
      rw [Roster.instance?_push] at hi
      split at hi
      · cases hi
        exact fun record hr => nomatch hr
      · exact hb.model p item hi

theorem modifyRoster_graft {change : Roster → Roster}
    (hc : ∀ roster, (change roster).instances = roster.instances) :
    Unnoticed (Fits ground factory) (ground.graft factory) (modifyRoster change) :=
  Unnoticed.modify (fun _ => rfl) fun bench hb => ⟨hb.numbered, hb.alike, fun p item hi =>
    hb.model p item (by
      unfold Roster.instance? at hi ⊢
      rwa [hc] at hi)⟩

theorem graft_compositional (hf : factory.KeepsKeys) :
    Compositional factory fun _ operation =>
      Unnoticed (Fits ground factory) (ground.graft factory) operation where
  pure := Unnoticed.pure
  bind := Unnoticed.bind
  read hr hn := Unnoticed.get_bind (fun bench => hr _ bench rfl) hn
  override position overrides :=
    onInstance_graft ((Instance.override_graft overrides).bind fun _ =>
      Unnoticed.get_bind (fun _ => rfl) fun _ => Unnoticed.pure _) position
  save := onInstance_graft (Instance.save_graft hf)
  build := build_graft
  mark hm := modifyRoster_graft hm.instances

/-- A declaration does not notice on what ground it works. -/
theorem declare_graft (hf : factory.KeepsKeys) (name : String) (form : Form)
    (arguments : Arguments) :
    Unnoticed (Fits ground factory) (ground.graft factory)
      (declare factory name form arguments) :=
  (graft_compositional hf).declare Unnoticed.throw name form arguments

end Bench

end Fixtures
