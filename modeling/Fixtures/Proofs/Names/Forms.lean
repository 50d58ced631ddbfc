import Fixtures.Names.Accessor

/-!
# The form that a name stands for

The four names of a factory may coincide.  A name that several forms share stands for the first of
them in the order `Form.all`, so it stands for a form exactly if that form has it and no form of
lower rank does (`Names.form?_eq_some_iff`).
-/

namespace Fixtures

/-- In a list that increases, a search answers at the least element at which it can. -/
theorem findSome?_eq_some_iff_of_pairwise {α β : Type} {before : α → α → Prop}
    (hasymm : ∀ x y, before x y → ¬before y x) {list : List α} (hl : list.Pairwise before)
    {search : α → Option β} {found : β} :
    list.findSome? search = some found ↔
      ∃ x ∈ list, search x = some found ∧
        ∀ y ∈ list, (search y).isSome → y = x ∨ before x y := by
  induction list with
  | nil => simp
  | cons head tail ih =>
    obtain ⟨hhead, htail⟩ := List.pairwise_cons.mp hl
    rw [List.findSome?_cons]
    cases hs : search head with
    | some answer =>
      constructor
      · rintro ⟨⟩
        refine ⟨head, List.mem_cons_self, hs, fun y hy _ => ?_⟩
        exact (List.mem_cons.mp hy).imp id (hhead y)
      · rintro ⟨x, hx, hfound, hleast⟩
        have hsome : (search head).isSome = true := by rw [hs]; rfl
        rcases hleast head List.mem_cons_self hsome with rfl | hbefore
        · exact hs.symm.trans hfound
        · -- The head is before everything else, so nothing is before it.
          rcases List.mem_cons.mp hx with rfl | hx
          · exact hs.symm.trans hfound
          · exact absurd hbefore (hasymm _ _ (hhead x hx))
    | none =>
      dsimp only
      rw [ih htail]
      constructor
      · rintro ⟨x, hx, hfound, hleast⟩
        refine ⟨x, List.mem_cons_of_mem _ hx, hfound, fun y hy hsome => ?_⟩
        rcases List.mem_cons.mp hy with rfl | hy
        · rw [hs] at hsome
          cases hsome
        · exact hleast y hy hsome
      · rintro ⟨x, hx, hfound, hleast⟩
        rcases List.mem_cons.mp hx with rfl | hx
        · rw [hs] at hfound
          cases hfound
        · exact ⟨x, hx, hfound, fun y hy => hleast y (List.mem_cons_of_mem _ hy)⟩

/-- The forms in the order in which they are given a name that they share. -/
def Form.all : List Form := [.singleton, .singletonHash, .collection, .collectionHash]

/-- The place of a form in that order. -/
def Form.rank : Form → Nat
  | .singleton => 0
  | .singletonHash => 1
  | .collection => 2
  | .collectionHash => 3

theorem Form.mem_all (form : Form) : form ∈ Form.all := by
  cases form <;> decide

theorem Form.rank_increases : Form.all.Pairwise (·.rank < ·.rank) := by decide

theorem Form.rank_inj {form other : Form} (h : form.rank = other.rank) : form = other := by
  cases form <;> cases other <;> first | rfl | cases h

namespace Names

variable {names : Names} {name : String} {form : Form}

theorem form?_eq_find? (names : Names) (name : String) :
    names.form? name = Form.all.find? (names.get · == name) := by
  show ((Form.all.map fun form => (form, names.get form)).find? _).map _ = _
  rw [List.find?_map, Option.map_map]
  exact Option.map_id'

/-- A name stands for the first form that has it. -/
theorem form?_eq_some_iff :
    names.form? name = some form ↔
      names.get form = name ∧ ∀ other, names.get other = name → form.rank ≤ other.rank := by
  rw [form?_eq_find?, List.find?_eq_findSome?_guard,
    findSome?_eq_some_iff_of_pairwise (fun _ _ => Nat.lt_asymm) Form.rank_increases]
  simp only [Option.guard_eq_some_iff, Option.isSome_guard, beq_iff_eq]
  constructor
  · rintro ⟨form, -, ⟨rfl, hname⟩, hleast⟩
    refine ⟨hname, fun other hother => ?_⟩
    rcases hleast other (Form.mem_all other) hother with rfl | hlt
    · exact Nat.le_refl _
    · exact Nat.le_of_lt hlt
  · rintro ⟨hname, hleast⟩
    refine ⟨form, Form.mem_all form, ⟨rfl, hname⟩, fun other _ hother => ?_⟩
    rcases Nat.eq_or_lt_of_le (hleast other hother) with heq | hlt
    · exact Or.inl (Form.rank_inj heq.symm)
    · exact Or.inr hlt

/-- It is one of the four names. -/
def Has (names : Names) (name : String) : Prop := ∃ form, names.get form = name

theorem isSome_form?_iff : (names.form? name).isSome = true ↔ names.Has name := by
  constructor
  · intro h
    obtain ⟨form, hf⟩ := Option.isSome_iff_exists.mp h
    exact ⟨form, get_of_form? hf⟩
  · rintro ⟨form, hform⟩
    rw [form?_eq_find?, List.find?_isSome]
    exact ⟨form, Form.mem_all form, beq_iff_eq.mpr hform⟩

theorem form?_eq_none_iff : names.form? name = none ↔ ∀ form, names.get form ≠ name := by
  rw [← Option.not_isSome_iff_eq_none, isSome_form?_iff]
  exact not_exists

theorem factory_derive (settings : Settings) (factory : String) :
    (derive settings factory).factory = factory := rfl

/-- The name of a factory always stands for its singleton. -/
theorem form?_derive_self (settings : Settings) (factory : String) :
    (derive settings factory).form? factory = some .singleton :=
  form?_eq_some_iff.mpr ⟨rfl, fun _ _ => Nat.zero_le _⟩

end Names

end Fixtures
