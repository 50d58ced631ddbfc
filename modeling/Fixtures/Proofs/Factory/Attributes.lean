import Fixtures.Factory
import Fixtures.Proofs.Outcome
import Mathlib.Data.List.Induction
import Mathlib.Data.List.Nodup

/-!
# Evaluated attributes

A factory answers an index with the values of all its fields, if all of their expressions have one
(`Factory.attributesAt_eq_ok_iff`).  Its fields are evaluated in the order of their names, so
otherwise it fails as the least field does that has no value (`Factory.attributesAt_eq_error_iff`).

A factory is assembled by additions.  Of several expressions for one field the last one counts, and
in no other way does it matter what was added when (`Factory.attributesAt_assemble`).
-/

namespace Fixtures

namespace Factory

variable {factory : Factory} {index : Nat} {attributes : AttributeMap} {error : Error}

/-! ## Evaluation field by field -/

/-- What a field answers at an index, if the factory defines the field. -/
def answer? (factory : Factory) (index : Nat) (field : String) : Option (Except String Value) :=
  (factory.fields.get? field).map (·.evaluate index)

/-- The value of an entry under its name, or the error of the factory. -/
def evaluated (factory : Factory) (index : Nat) (entry : String × Expression) :
    Except Error (String × Value) :=
  match entry.2.evaluate index with
  | .ok value => .ok (entry.1, value)
  | .error message => .error (.expression factory.name index entry.1 message)

theorem evaluated_eq_ok_iff {entry : String × Expression} {pair : String × Value} :
    factory.evaluated index entry = .ok pair ↔
      (entry.1, entry.2.evaluate index) = (pair.1, .ok pair.2) := by
  unfold evaluated
  cases entry.2.evaluate index with
  | ok value => simp [Prod.ext_iff]
  | error message => simp

theorem evaluated_eq_error_iff {entry : String × Expression} :
    factory.evaluated index entry = .error error ↔
      ∃ message, entry.2.evaluate index = .error message ∧
        error = .expression factory.name index entry.1 message := by
  unfold evaluated
  cases entry.2.evaluate index with
  | ok value => simp
  | error message => simp [eq_comm]

/-- To insert values one after the other is to evaluate all entries and insert what they give. -/
theorem foldlM_evaluateField (factory : Factory) (index : Nat)
    (entries : List (String × Expression)) (start : AttributeMap) :
    entries.foldlM (factory.evaluateField index) start =
      (entries.mapM (factory.evaluated index)).map start.insertAll := by
  induction entries generalizing start with
  | nil => rfl
  | cons entry entries ih =>
    rw [List.foldlM_cons, List.mapM_cons]
    unfold evaluateField evaluated
    cases entry.2.evaluate index with
    | error message => rfl
    | ok value =>
      refine (ih (start.insert entry.1 value)).trans ?_
      show _ = Except.map _ (entries.mapM (factory.evaluated index) >>= _)
      cases entries.mapM (factory.evaluated index) <;> rfl

theorem attributesAt_eq_map (factory : Factory) (index : Nat) :
    factory.attributesAt index =
      (factory.fields.entries.mapM (factory.evaluated index)).map SortedMap.ofList :=
  factory.foldlM_evaluateField index factory.fields.entries ∅

/-! ## Answers and failures -/

/-- The entries have these values under these names. -/
theorem mapM_evaluated_eq_ok_iff {entries : List (String × Expression)}
    {pairs : List (String × Value)} :
    entries.mapM (factory.evaluated index) = .ok pairs ↔
      entries.map (fun entry => (entry.1, entry.2.evaluate index)) =
        pairs.map fun pair => (pair.1, (Except.ok pair.2 : Except String Value)) := by
  rw [mapM_eq_ok_iff]
  induction entries generalizing pairs with
  | nil => cases pairs <;> simp
  | cons entry entries ih =>
    cases pairs with
    | nil => simp
    | cons pair pairs => simp only [List.map_cons, List.cons.injEq, ih, evaluated_eq_ok_iff]

/-- The attributes have the fields of the factory, each with the value that it answers. -/
theorem attributesAt_eq_ok_iff :
    factory.attributesAt index = .ok attributes ↔
      ∀ field, factory.answer? index field = (attributes.get? field).map Except.ok := by
  have hmaps : (∀ field, factory.answer? index field = (attributes.get? field).map Except.ok) ↔
      factory.fields.map (·.evaluate index) = attributes.map Except.ok := by
    unfold answer?
    simp only [← SortedMap.get?_map]
    exact ⟨SortedMap.ext, fun h _ => h ▸ rfl⟩
  rw [hmaps, attributesAt_eq_map]
  constructor
  · intro h
    cases hm : factory.fields.entries.mapM (factory.evaluated index) with
    | error error =>
      rw [hm] at h
      cases h
    | ok pairs =>
      have hpairs := mapM_evaluated_eq_ok_iff.mp hm
      -- The pairs have the names of the fields, so they come in their order.
      have hkeys : factory.fields.keys = pairs.map (·.1) := by
        have hfst := congrArg (List.map (·.1)) hpairs
        rwa [List.map_map, List.map_map] at hfst
      have hsorted : SortedMap.Increasing pairs :=
        List.pairwise_map.mp (hkeys ▸ factory.fields.keys_sorted)
      have hof : SortedMap.ofList pairs = ⟨pairs, hsorted⟩ :=
        SortedMap.ofList_entries ⟨pairs, hsorted⟩
      rw [hm] at h
      rw [← Except.ok.inj h, hof]
      exact SortedMap.entries_injective hpairs
  · intro h
    have hm : factory.fields.entries.mapM (factory.evaluated index) = .ok attributes.entries :=
      mapM_evaluated_eq_ok_iff.mpr (congrArg SortedMap.entries h)
    rw [hm]
    exact congrArg Except.ok (SortedMap.ofList_entries attributes)

/-- The field fails with the message, and no field that comes before it fails. -/
def FailsFirst (answer? : String → Option (Except String Value)) (field message : String) : Prop :=
  answer? field = some (.error message) ∧
    ∀ other message', answer? other = some (.error message') → field ≤ other

theorem FailsFirst.unique {answer? : String → Option (Except String Value)}
    {field message field' message' : String} (h : FailsFirst answer? field message)
    (h' : FailsFirst answer? field' message') : field = field' ∧ message = message' := by
  have hfield : field = field' := Std.le_antisymm (h.2 _ _ h'.1) (h'.2 _ _ h.1)
  subst hfield
  cases h.1.symm.trans h'.1
  exact ⟨rfl, rfl⟩

theorem failsFirst_of_attributesAt (h : factory.attributesAt index = .error error) :
    ∃ field message, error = .expression factory.name index field message ∧
      FailsFirst (factory.answer? index) field message := by
  rw [attributesAt_eq_map] at h
  obtain ⟨before, entry, rest, hentries, hbefore, hentry⟩ :=
    mapM_eq_error_iff.mp (eq_error_of_map h)
  obtain ⟨message, hmessage, rfl⟩ := evaluated_eq_error_iff.mp hentry
  have hmem : entry ∈ factory.fields.entries := by
    rw [hentries]
    exact List.mem_append_right _ List.mem_cons_self
  refine ⟨entry.1, message, rfl, ?_, fun other message' hother => ?_⟩
  · unfold answer?
    rw [SortedMap.mem_entries_iff.mp hmem, Option.map_some, hmessage]
  · unfold answer? at hother
    obtain ⟨expression, hget, hfails⟩ := Option.map_eq_some_iff.mp hother
    have hm := SortedMap.mem_entries_iff.mpr hget
    have hsorted := factory.fields.sorted
    rw [hentries] at hm hsorted
    rcases List.mem_append.mp hm with hm | hm
    · -- What comes before has a value.
      obtain ⟨pair, hpair⟩ := hbefore _ hm
      cases hfails.symm.trans (congrArg Prod.snd (evaluated_eq_ok_iff.mp hpair))
    · rcases List.mem_cons.mp hm with rfl | hm
      · exact Std.le_refl other
      · have hlt := SortedMap.Increasing.lt_of_mem (List.pairwise_append.mp hsorted).2.1 hm
        exact Std.le_of_lt hlt

/-- The error is that of the least field that fails. -/
theorem attributesAt_eq_error_iff :
    factory.attributesAt index = .error error ↔
      ∃ field message, error = .expression factory.name index field message ∧
        FailsFirst (factory.answer? index) field message := by
  refine ⟨failsFirst_of_attributesAt, ?_⟩
  rintro ⟨field, message, rfl, hfirst⟩
  cases ha : factory.attributesAt index with
  | ok attributes =>
    have hfield := attributesAt_eq_ok_iff.mp ha field
    rw [hfirst.1] at hfield
    obtain ⟨value, -, hvalue⟩ := Option.map_eq_some_iff.mp hfield.symm
    cases hvalue
  | error error =>
    obtain ⟨field', message', rfl, hfirst'⟩ := failsFirst_of_attributesAt ha
    obtain ⟨rfl, rfl⟩ := hfirst.unique hfirst'
    rfl

theorem attributesAt_isOk_iff :
    (∃ attributes, factory.attributesAt index = .ok attributes) ↔
      ∀ field answer, factory.answer? index field = some answer → ∃ value, answer = .ok value := by
  constructor
  · rintro ⟨attributes, ha⟩ field answer hanswer
    rw [attributesAt_eq_ok_iff.mp ha field] at hanswer
    obtain ⟨value, -, rfl⟩ := Option.map_eq_some_iff.mp hanswer
    exact ⟨value, rfl⟩
  · intro h
    cases ha : factory.attributesAt index with
    | ok attributes => exact ⟨attributes, rfl⟩
    | error error =>
      obtain ⟨field, message, -, hfirst⟩ := attributesAt_eq_error_iff.mp ha
      obtain ⟨value, hvalue⟩ := h field _ hfirst.1
      cases hvalue

/-- Beside its name, what the fields answer is all that matters of a factory. -/
theorem attributesAt_congr {other : Factory} (hn : other.name = factory.name)
    (ha : other.answer? index = factory.answer? index) :
    other.attributesAt index = factory.attributesAt index := by
  cases hf : factory.attributesAt index with
  | ok attributes =>
    rw [attributesAt_eq_ok_iff, ha]
    exact attributesAt_eq_ok_iff.mp hf
  | error error =>
    rw [attributesAt_eq_error_iff, hn, ha]
    exact attributesAt_eq_error_iff.mp hf

/-! ## Assembling a factory -/

/-- What is added to a factory. -/
inductive Addition where
  | field (name : String) (expression : Expression)
  | preference (other association : String)
  | afterBuild (hook : AttributeMap → AttributeMap)
  | afterCreate (hook : Record → Record)

namespace Addition

def apply (factory : Factory) : Addition → Factory
  | .field name expression => factory.withField name expression
  | .preference other association => factory.withPreference other association
  | .afterBuild hook => factory.withAfterBuild hook
  | .afterCreate hook => factory.withAfterCreate hook

/-- The field that gets an expression. -/
def field? : Addition → Option String
  | .field name _ => some name
  | .preference .. | .afterBuild _ | .afterCreate _ => none

/-- The expression that a field gets. -/
def expression? (field : String) : Addition → Option Expression
  | .field name expression => if field = name then some expression else none
  | .preference .. | .afterBuild _ | .afterCreate _ => none

theorem expression?_field (field name : String) (expression : Expression) :
    (Addition.field name expression).expression? field =
      if field = name then some expression else none := rfl

theorem name_apply (addition : Addition) (factory : Factory) :
    (addition.apply factory).name = factory.name := by
  cases addition <;> rfl

theorem get?_fields_apply (addition : Addition) (factory : Factory) (field : String) :
    (addition.apply factory).fields.get? field =
      (addition.expression? field).or (factory.fields.get? field) := by
  cases addition with
  | field name expression =>
    show (factory.fields.insert name expression).get? field = _
    rw [SortedMap.get?_insert, expression?_field]
    split <;> rfl
  | _ => rfl

end Addition

/-- The factory that additions make, from the first to the last. -/
def assemble (name model : String) (additions : List Addition) : Factory :=
  additions.foldl Addition.apply { name, model }

/-- The expression that counts for a field: the last one of those it gets. -/
def lastExpression? (field : String) (additions : List Addition) : Option Expression :=
  (additions.filterMap (·.expression? field)).getLast?

variable {name model : String} {additions : List Addition}

theorem assemble_concat (addition : Addition) :
    assemble name model (additions ++ [addition]) =
      addition.apply (assemble name model additions) := List.foldl_append

theorem name_assemble : (assemble name model additions).name = name := by
  induction additions using List.reverseRecOn with
  | nil => rfl
  | append_singleton additions addition ih => rw [assemble_concat, Addition.name_apply, ih]

theorem get?_fields_assemble (field : String) :
    (assemble name model additions).fields.get? field = lastExpression? field additions := by
  induction additions using List.reverseRecOn with
  | nil => rfl
  | append_singleton additions addition ih =>
    rw [assemble_concat, Addition.get?_fields_apply, ih]
    unfold lastExpression?
    rw [List.filterMap_append, List.getLast?_append]
    cases h : addition.expression? field <;> simp [h]

theorem answer?_assemble (name model : String) (additions : List Addition) (index : Nat) :
    (assemble name model additions).answer? index =
      fun field => (lastExpression? field additions).map (·.evaluate index) := by
  funext field
  unfold answer?
  rw [get?_fields_assemble]

/-- A field gets as many expressions as there are additions to it. -/
theorem length_filterMap_expression? (field : String) (additions : List Addition) :
    (additions.filterMap (·.expression? field)).length =
      (additions.filterMap Addition.field?).count field := by
  induction additions with
  | nil => rfl
  | cons addition additions ih =>
    cases addition with
    | field name expression =>
      have hfield : Addition.field? (.field name expression) = some name := rfl
      rw [List.filterMap_cons_some hfield, List.count_cons, ← ih, List.filterMap_cons,
        Addition.expression?_field]
      by_cases hf : field = name
      · simp [hf]
      · simp [hf, Ne.symm hf]
    | _ => exact ih

/-- Where no field gets several expressions, the order of the additions is of no account. -/
theorem lastExpression?_of_perm {others : List Addition} (hp : others.Perm additions)
    (hn : (additions.filterMap Addition.field?).Nodup) (field : String) :
    lastExpression? field others = lastExpression? field additions := by
  have hlength : (additions.filterMap (·.expression? field)).length ≤ 1 := by
    rw [length_filterMap_expression?]
    exact List.nodup_iff_count_le_one.mp hn field
  have hperm := hp.filterMap (·.expression? field)
  unfold lastExpression?
  generalize additions.filterMap (·.expression? field) = expressions at hlength hperm
  match expressions with
  | [] => rw [hperm.eq_nil]
  | [expression] => rw [List.perm_singleton.mp hperm]
  | _ :: _ :: _ => exact absurd hlength (by simp)

/-- A factory answers an index exactly if the last expression of every field has a value there, and
then with these values. Otherwise it fails as the least field does whose last expression fails. It
answers as any factory of its name does that has the same last expressions. -/
theorem attributesAt_assemble (name model : String) (additions : List Addition) (index : Nat) :
    let factory := assemble name model additions
    let answer? := fun field => (lastExpression? field additions).map (·.evaluate index)
    ((∃ attributes, factory.attributesAt index = .ok attributes) ↔
      ∀ field answer, answer? field = some answer → ∃ value, answer = .ok value) ∧
    (∀ attributes, factory.attributesAt index = .ok attributes ↔
      ∀ field, answer? field = (attributes.get? field).map Except.ok) ∧
    (∀ error, factory.attributesAt index = .error error ↔
      ∃ field message, error = .expression name index field message ∧
        FailsFirst answer? field message) ∧
    ∀ model' others, (∀ field, lastExpression? field others = lastExpression? field additions) →
      (assemble name model' others).attributesAt index = factory.attributesAt index := by
  intro factory answer?
  have hanswer : factory.answer? index = answer? := answer?_assemble name model additions index
  have hname : factory.name = name := name_assemble
  refine ⟨?_, fun attributes => ?_, fun error => ?_, fun model' others ho => ?_⟩
  · rw [attributesAt_isOk_iff, hanswer]
  · rw [attributesAt_eq_ok_iff, hanswer]
  · rw [attributesAt_eq_error_iff, hanswer, hname]
  · apply attributesAt_congr (name_assemble.trans hname.symm)
    rw [hanswer, answer?_assemble]
    simp only [ho]
    rfl

/-- Two fields fail. Whichever was added first, the error is that of the one whose name is less. -/
theorem attributesAt_assemble_of_two_failures :
    let failing := fun message => Expression.computed fun _ => .error message
    let additions : List Addition :=
      [.field "rank" (failing "no rank"), .preference "post" "posts",
        .field "age" (failing "no age"), .field "email" (.template "u\x7bn\x7d@tut.by")]
    let others := additions.reverse
    (∀ field, lastExpression? field others = lastExpression? field additions) ∧
      (assemble "user" "User" others).attributesAt 3 =
        (assemble "user" "User" additions).attributesAt 3 ∧
      (assemble "user" "User" additions).attributesAt 3 =
        .error (.expression "user" 3 "age" "no age") := by
  intro failing additions others
  have hlast : ∀ field, lastExpression? field others = lastExpression? field additions :=
    lastExpression?_of_perm (List.reverse_perm additions) (by decide)
  exact ⟨hlast, (attributesAt_assemble "user" "User" additions 3).2.2.2 "User" others hlast, rfl⟩

end Factory

end Fixtures
