import Fixtures.Proofs.Block.Step
import Fixtures.Proofs.Roster.Splitting
import Fixtures.Store.Database

/-!
# Statements for collections in parts

Two statements for a collection, one after the other, do what one statement does that asks for as
much as both.  A statement that fails leaves what two statements leave: one for the elements before
the failing one, which succeeds, and one for the failing element alone (`Block.declare_splits`).
-/

namespace Fixtures

namespace Block

variable {σ : Type} [RecordStore σ] {block left : Block σ} {name factoryName : String}
  {factory : Factory} {form : Form} {whole first rest : Arguments}

theorem declare_of_splits (hr : block.workshop.resolveName name = .ok (factoryName, form))
    (hc : form.isCollection = true) (h : whole.Splits first rest) :
    declare name whole block =
      (do
        let ref ← declare name first
        let ref' ← declare name rest
        return { ref with positions := ref.positions ++ ref'.positions }) block := by
  obtain ⟨factory, hf⟩ := Catalog.factory?_of_resolveName hr
  have hwhole := declare_of_resolved hr hf whole
  have hfirst := declare_of_resolved hr hf first
  rw [Bench.declare_of_splits hc h] at hwhole
  cases hd : Bench.declare factory name form first (block.bench factoryName) with
  | error error bench =>
    rw [bind_of_error hd] at hwhole
    rw [hd] at hfirst
    rw [hwhole, bind_of_error hfirst]
  | ok positions bench =>
    have hrest := declare_setBench hr hf rest bench
    rw [bind_of_ok hd] at hwhole
    rw [hd] at hfirst
    rw [hwhole, bind_of_ok hfirst]
    cases hd' : Bench.declare factory name form rest bench with
    | error error bench' =>
      rw [hd'] at hrest
      rw [bind_of_error hd', bind_of_error hrest]
    | ok positions' bench' =>
      rw [hd'] at hrest
      rw [bind_of_ok hd', bind_of_ok hrest]
      rfl

theorem declare_eq_error_of_collection
    (hr : block.workshop.resolveName name = .ok (factoryName, form))
    (hc : form.isCollection = true) {error : Error}
    (h : declare name whole block = .error error left) :
    ∃ first tail element rest ref middle,
      whole.Splits first tail ∧ tail.Splits element rest ∧ element.asked = 1 ∧
      declare name first block = .ok ref middle ∧
      declare name element middle = .error error left := by
  obtain ⟨factory, hf⟩ := Catalog.factory?_of_resolveName hr
  rw [declare_of_resolved hr hf] at h
  cases hd : Bench.declare factory name form whole (block.bench factoryName) with
  | ok positions bench =>
    rw [hd] at h
    cases h
  | error error' bench =>
    rw [hd] at h
    cases h
    obtain ⟨first, tail, element, rest, positions, middle, hs, hs', ha, hfirst, hfails⟩ :=
      Bench.declare_eq_error_of_collection hc hd
    refine ⟨first, tail, element, rest, { factory := factoryName, form, positions },
      block.setBench factoryName middle, hs, hs', ha, ?_, ?_⟩
    · rw [declare_of_resolved hr hf, hfirst]
    · rw [declare_setBench hr hf, hfails]

/-- A statement for a collection is the same as two that share its elements out between them, the
second only if the first succeeds, and answers the positions of both.  If it fails, then at one of
its elements: what it leaves is what that element alone leaves after a statement for the elements
before it, which succeeds. -/
theorem declare_splits (block : Block σ) (name factoryName : String) (form : Form)
    (hr : block.workshop.resolveName name = .ok (factoryName, form))
    (hc : form.isCollection = true) (whole : Arguments) :
    (∀ first rest, whole.Splits first rest →
      declare name whole block =
        (do
          let ref ← declare name first
          let ref' ← declare name rest
          return { ref with positions := ref.positions ++ ref'.positions }) block) ∧
    ∀ error left, declare name whole block = .error error left →
      ∃ first tail element rest ref middle,
        whole.Splits first tail ∧ tail.Splits element rest ∧ element.asked = 1 ∧
        declare name first block = .ok ref middle ∧
        declare name element middle = .error error left :=
  ⟨fun _ _ h => declare_of_splits hr hc h, fun _ _ h => declare_eq_error_of_collection hr hc h⟩

/-- The third user has no name, so the statement leaves the two before it and a third that is not
saved. -/
theorem declare_splits_of_refused :
    let user : Factory := { name := "user", model := "User" }
    let workshop : Workshop := { catalog := (∅ : Catalog).register user }
    let store : Database := { required := [("User", "name")] }
    let block := start workshop store
    let named (name : String) : AttributeMap := (∅ : AttributeMap).insert "name" (.text name)
    let whole : Arguments := .overrides [named "a", named "b", ∅]
    Ends (declare "users" whole block) (fun _ _ => False)
        (fun error left => error = .store (.blank "User" "name") ∧ left.store.count "User" = 2 ∧
          (left.rosters.get? "user").any (·.size = 3)) ∧
      ∃ first tail element rest ref middle error left,
        whole.Splits first tail ∧ tail.Splits element rest ∧ element.asked = 1 ∧
        declare "users" first block = .ok ref middle ∧
        declare "users" element middle = .error error left := by
  intro user workshop store block named whole
  refine ⟨by decide +kernel, ?_⟩
  have hr : block.workshop.resolveName "users" = .ok ("user", .collection) :=
    eq_ok_of_toOption (by decide +kernel)
  have hd : Ends (declare "users" whole block) (fun _ _ => False) fun _ _ => True := by
    decide +kernel
  cases he : declare "users" whole block with
  | ok ref left =>
    rw [he] at hd
    exact hd.elim
  | error error left =>
    obtain ⟨first, tail, element, rest, ref, middle, h⟩ :=
      (declare_splits block "users" "user" .collection hr rfl whole).2 error left he
    exact ⟨first, tail, element, rest, ref, middle, error, left, h⟩

end Block

end Fixtures
