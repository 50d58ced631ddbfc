import Fixtures.Proofs.Link.Choice
import Fixtures.Proofs.Serial.Spelling

/-!
# Names of associations

An association has a name of its own, and a schema keeps it under a name.  An added association is
kept under its own, but one that is read may be kept under any other, and stays there until an
association of that name is added (`Schema.association_names`).  Where all are kept under their own
names, the associations to a model are listed in the order of their names.
-/

namespace Fixtures

open Serial

/-- Entries and the fields that spell them are looked up side by side. -/
theorem Serial.lookupEntry_rel {α : Type} {spells : α → Value → Prop}
    {fields : List (String × Value)} {entries : List (String × α)}
    (h : List.Forall₂ (fun field entry => field.1 = entry.1 ∧ spells entry.2 field.2)
      fields entries) (name : String) :
    Option.Rel (fun value x => spells x value) (SortedMap.lookupEntry name fields)
      (SortedMap.lookupEntry name entries) := by
  induction h with
  | nil => exact .none
  | cons hfirst _ ih =>
    unfold SortedMap.lookupEntry
    rw [hfirst.1]
    split
    · exact .some hfirst.2
    · exact ih

/-- Of several fields with one name the last one spells what the map has under it. -/
theorem Serial.SpellsMap.get?_rel {α : Type} {spells : α → Value → Prop} {map : SortedMap α}
    {fields : List (String × Value)} (h : SpellsMap spells map fields) (name : String) :
    Option.Rel (fun value x => spells x value) (SortedMap.lookupEntry name fields.reverse)
      (map.get? name) := by
  obtain ⟨entries, rfl, hfields⟩ := h
  have hget : (SortedMap.ofList entries).get? name =
      SortedMap.lookupEntry name entries.reverse := by
    unfold SortedMap.ofList
    rw [SortedMap.get?_insertAll, SortedMap.get?_empty, Option.or_none]
  rw [hget]
  exact lookupEntry_rel (List.forall₂_reverse_iff.mpr hfields) name

namespace Schema

/-! ## Where a schema comes from -/

/-- A schema is new, or it is read. -/
inductive Origin where
  | new (model : String)
  | read (value : Value)

namespace Origin

/-- The schema to begin with, unless there is nothing to read in the value. -/
def schema? : Origin → Option Schema
  | .new model => some { model }
  | .read value => ofValue? value

/-- The schema has the association under the name from its origin. -/
inductive Puts : Origin → String → Association → Prop
  -- Of several fields with the name, the last one counts.
  | read {value written : Value} {model name : String} {fields : List (String × Value)}
      {association : Association}
      (hs : Spells ["model", "associations"] [.text model, .object fields] value)
      (hw : SortedMap.lookupEntry name fields.reverse = some written)
      (ha : association.Spelled written) : Puts (.read value) name association

theorem association?_eq_some_iff {origin : Origin} {schema : Schema}
    (h : origin.schema? = some schema) {name : String} {association : Association} :
    schema.association? name = some association ↔ origin.Puts name association := by
  cases origin with
  | new model =>
    cases h
    exact ⟨nofun, nofun⟩
  | read value =>
    obtain ⟨fields, hmap, hspells⟩ := ofValue?_eq_some_iff.mp h
    have hrel := hmap.get?_rel name
    constructor
    · intro ha
      unfold association? at ha
      rw [ha] at hrel
      generalize hw : SortedMap.lookupEntry name fields.reverse = written at hrel
      cases hrel with
      | some hspelled => exact .read hspells hw hspelled
    · rintro (@⟨_, written, _, _, fields', _, hs, hw, ha⟩)
      -- There is one way only to read the value, and one to read the field.
      cases (required?_eq_some_iff.mpr hspells).symm.trans (required?_eq_some_iff.mpr hs)
      rw [hw] at hrel
      unfold association?
      generalize schema.associations.get? name = found at hrel
      cases hrel with
      | some hspelled =>
        exact (Association.ofValue?_eq_some_iff.mpr hspelled).symm.trans
          (Association.ofValue?_eq_some_iff.mpr ha)

end Origin

/-! ## Added associations -/

/-- Adds associations one after the other. -/
def addAll (schema : Schema) (added : List Association) : Schema := added.foldl add schema

/-- Every association is kept under its own name. -/
def WellNamed (schema : Schema) : Prop :=
  ∀ name association, schema.association? name = some association → association.name = name

instance (schema : Schema) : Decidable schema.WellNamed :=
  decidable_of_iff (∀ entry ∈ schema.associations.entries, entry.2.name = entry.1)
    ⟨fun h name association ha => h (name, association) (SortedMap.mem_entries_iff.mpr ha),
      fun h entry he => h entry.1 entry.2 (SortedMap.mem_entries_iff.mp he)⟩

variable {schema : Schema} {added : List Association} {name : String} {association : Association}

theorem built_addAll (h : schema.Built) (added : List Association) :
    (schema.addAll added).Built := by
  induction added generalizing schema with
  | nil => exact h
  | cons first added ih => exact ih (h.add first)

theorem addAll_eq (schema : Schema) (added : List Association) :
    schema.addAll added =
      { schema with
        associations := schema.associations.insertAll (added.map fun a => (a.name, a)) } := by
  induction added generalizing schema with
  | nil => rfl
  | cons first added ih => exact ih (schema.add first)

/-- A schema with all associations under their own names could as well have been made by adding
them, whether or not it was. -/
theorem wellNamed_iff_built : schema.WellNamed ↔ schema.Built := by
  refine ⟨fun h => ?_, fun h _ _ => h.name_of_association⟩
  have hentries : schema.associations.values.map (fun a => (a.name, a)) =
      schema.associations.entries := by
    unfold SortedMap.values
    rw [List.map_map]
    refine (List.map_congr_left fun entry he => ?_).trans (List.map_id _)
    exact Prod.ext (h entry.1 entry.2 (SortedMap.mem_entries_iff.mp he)) rfl
  have hall : ({ model := schema.model } : Schema).addAll schema.associations.values = schema := by
    rw [addAll_eq, hentries]
    exact congrArg (Schema.mk schema.model) (SortedMap.ofList_entries schema.associations)
  exact hall ▸ built_addAll (.new schema.model) schema.associations.values

/-- What is found under another name than its own has been there before, and nothing of that name
was added. -/
theorem misnamed_addAll_iff :
    (schema.addAll added).association? name = some association ∧ association.name ≠ name ↔
      (schema.association? name = some association ∧ association.name ≠ name) ∧
        ∀ later ∈ added, later.name ≠ name := by
  unfold addAll
  induction added generalizing schema with
  | nil => simp
  | cons first added ih =>
    rw [List.foldl_cons, ih, association?_add, List.forall_mem_cons]
    by_cases hn : name = first.name
    · rw [if_pos hn]
      constructor
      · rintro ⟨⟨⟨⟩, hne⟩, -⟩
        exact absurd hn.symm hne
      · rintro ⟨-, hne, -⟩
        exact absurd hn.symm hne
    · rw [if_neg hn]
      exact and_congr_right fun _ => ⟨fun h => ⟨Ne.symm hn, h⟩, And.right⟩

theorem wellNamed_addAll_iff :
    (schema.addAll added).WellNamed ↔
      ∀ name association, schema.association? name = some association →
        association.name ≠ name → ∃ later ∈ added, later.name = name := by
  constructor
  · intro h name association ha hne
    by_contra hnone
    obtain ⟨hadded, -⟩ := misnamed_addAll_iff.mpr
      ⟨⟨ha, hne⟩, fun later hl he => hnone ⟨later, hl, he⟩⟩
    exact hne (h name association hadded)
  · intro h name association ha
    by_contra hne
    obtain ⟨⟨hbefore, -⟩, hnone⟩ := misnamed_addAll_iff.mp ⟨ha, hne⟩
    obtain ⟨later, hl, he⟩ := h name association hbefore hne
    exact hnone later hl he

namespace WellNamed

theorem towards_increases (h : schema.WellNamed) (target : String) :
    ((schema.towards target).map (·.name)).Pairwise (· < ·) := by
  obtain ⟨entries, hi, ht, hm⟩ := schema.towards_eq_map target
  have hnames : entries.map (·.2.name) = entries.map (·.1) :=
    List.map_congr_left fun entry he => h _ _ ((hm entry.1 entry.2).mp he).1
  rw [ht, List.map_map]
  exact hnames ▸ List.pairwise_map.mpr hi

theorem mem_towards_iff (h : schema.WellNamed) {target : String} :
    association ∈ schema.towards target ↔
      schema.association? association.name = some association ∧
        association.targetModel = target := by
  constructor
  · intro hm
    obtain ⟨⟨name, ha⟩, ht⟩ := mem_towards hm
    rw [h name association ha]
    exact ⟨ha, ht⟩
  · intro ha
    obtain ⟨entries, -, ht, hm⟩ := schema.towards_eq_map target
    rw [ht]
    exact List.mem_map_of_mem ((hm association.name association).mpr ha)

end WellNamed

/-- A schema that began as a new one keeps every association under its own name, and one that was
read does exactly if, wherever the value puts an association under another name, one of that name
was added.  Then the associations to a model are listed in strictly increasing order of their names.
An added association is found under its name, and under every other name what was found before. -/
theorem association_names (origin : Origin) (added : List Association) {start : Schema}
    (h : origin.schema? = some start) :
    let schema := start.addAll added
    (∀ model, origin = .new model → schema.WellNamed) ∧
    (schema.WellNamed ↔
      ∀ name association, origin.Puts name association → association.name ≠ name →
        ∃ later ∈ added, later.name = name) ∧
    (schema.WellNamed → ∀ target,
      ((schema.towards target).map (·.name)).Pairwise (· < ·) ∧
      ∀ association, association ∈ schema.towards target ↔
        schema.association? association.name = some association ∧
          association.targetModel = target) ∧
    ∀ association,
      (schema.add association).association? association.name = some association ∧
      ∀ name, name ≠ association.name →
        (schema.add association).association? name = schema.association? name := by
  intro schema
  refine ⟨?_, ?_, fun hw target => ⟨hw.towards_increases target, fun _ => hw.mem_towards_iff⟩,
    fun association => ⟨?_, fun name hne => ?_⟩⟩
  · rintro model rfl
    cases h
    exact wellNamed_iff_built.mpr (built_addAll (.new model) added)
  · simp only [← Origin.association?_eq_some_iff h]
    exact wellNamed_addAll_iff
  · rw [association?_add, if_pos rfl]
  · rw [association?_add, if_neg hne]

/-- An association is read under a name that is not its own, and replaced by one of that name. -/
theorem association_names_of_replaced :
    let author : Association := ⟨"author", .belongsTo, "User", "user_id"⟩
    let writer := { author with name := "writer" }
    let reader : Association := ⟨"reader", .hasMany, "User", "post_id"⟩
    let value := Value.list
      [.text "Post", .object [("author", writer.toValue), ("reader", reader.toValue)]]
    let start : Schema := ⟨"Post", .ofList [("author", writer), ("reader", reader)]⟩
    let schema := start.addAll [author]
    (Origin.read value).schema? = some start ∧ ¬ start.WellNamed ∧ schema.WellNamed ∧
      (schema.towards "User").map (·.name) = ["author", "reader"] ∧
      ((schema.towards "User").map (·.name)).Pairwise (· < ·) := by
  intro author writer reader value start schema
  have hread : (Origin.read value).schema? = some start := by decide
  have hw : schema.WellNamed := by decide
  have hnames := association_names (.read value) [author] hread
  exact ⟨hread, by decide, hw, by decide, (hnames.2.2.1 hw "User").1⟩

/-- Two associations that are read under each other's names are found under these, and listed in the
wrong order. -/
theorem misnamed_of_read :
    let user : Association := ⟨"user", .belongsTo, "User", "user_id"⟩
    let editor : Association := ⟨"editor", .belongsTo, "User", "editor_id"⟩
    let value := Value.object
      [("associations", .object [("editor", user.toValue), ("user", editor.toValue)]),
        ("model", .text "Post")]
    ∃ start, (Origin.read value).schema? = some start ∧
      (∃ association, start.association? "editor" = some association ∧
        association.name ≠ "editor") ∧
      ¬ ((start.towards "User").map (·.name)).Pairwise (· < ·) := by
  intro user editor value
  exact ⟨⟨"Post", .ofList [("editor", user), ("user", editor)]⟩, by decide, ⟨user, by decide⟩,
    by decide⟩

end Schema

end Fixtures
