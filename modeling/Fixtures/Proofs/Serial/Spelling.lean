import Fixtures.Serial
import Mathlib.Data.List.Forall2

/-!
# Spellings of serialized values

A structure may be spelled as an object with its fields among any others, or as the list of its
field values; a kind without fields as its name, or as an object with a null under that name;
settings may leave fields out.  The readers admit exactly these spellings: each reads a value as
what the value spells (`Record.ofValue?_eq_some_iff` and so on for the other types).
-/

namespace Fixtures

theorem mapM_eq_some_iff {α β : Type} {f : α → Option β} {list : List α} {results : List β} :
    list.mapM f = some results ↔ List.Forall₂ (fun x y => f x = some y) list results := by
  induction list generalizing results with
  | nil =>
    rw [List.mapM_nil, List.forall₂_nil_left_iff]
    exact Option.some_inj.trans eq_comm
  | cons x list ih =>
    rw [List.mapM_cons, List.forall₂_cons_left_iff]
    simp only [Option.bind_eq_bind, Option.bind_eq_some_iff, ih]
    constructor
    · rintro ⟨y, hy, rest, hrest, he⟩
      cases he
      exact ⟨y, rest, hy, hrest, rfl⟩
    · rintro ⟨y, rest, hy, hrest, rfl⟩
      exact ⟨y, hy, rest, hrest, rfl⟩

namespace Value

/-- The value is the text. -/
def IsText (s : String) (value : Value) : Prop := value = .text s

variable {value : Value}

theorem asText?_eq_some_iff {s : String} : value.asText? = some s ↔ IsText s value := by
  cases value <;> simp [asText?, IsText]

theorem asInt?_eq_some_iff {n : Int} :
    value.asInt? = some n ↔ value = .int n ∧ -Int.pow 2 63 ≤ n ∧ n < Int.pow 2 63 := by
  unfold asInt?
  split
  · rename_i m
    split
    · rename_i hm
      constructor
      · rintro ⟨⟩
        exact ⟨rfl, hm⟩
      · rintro ⟨⟨⟩, -⟩
        rfl
    · rename_i hm
      constructor
      · nofun
      · rintro ⟨⟨⟩, hn⟩
        exact absurd hn hm
  · rename_i hv
    constructor
    · nofun
    · rintro ⟨rfl, -⟩
      exact absurd rfl (hv n)

end Value

namespace Serial

/-! ## Fields -/

/-- The value spells a structure whose fields have these values, in order of declaration. -/
inductive Spells (names : List String) : List Value → Value → Prop
  -- An object that has the fields; it may have others.
  | object {fields : List (String × Value)} {values : List Value}
      (h : List.Forall₂ (fun name value => SortedMap.lookupEntry name fields = some value)
        names values) : Spells names values (.object fields)
  | list {values : List Value} (h : values.length = names.length) :
      Spells names values (.list values)

theorem bool?_eq_some_iff {value : Value} {b : Bool} : bool? value = some b ↔ value = .bool b := by
  cases value <;> simp [bool?]

theorem attributes?_eq_some_iff {value : Value} {attributes : AttributeMap} :
    attributes? value = some attributes ↔
      ∃ fields, value = .object fields ∧ SortedMap.ofList fields = attributes := by
  cases value <;> simp [attributes?]

theorem required?_eq_some_iff {names : List String} {values : List Value} {value : Value} :
    required? names value = some values ↔ Spells names values value := by
  cases value with
  | object fields =>
    refine mapM_eq_some_iff.trans ⟨Spells.object, fun h => ?_⟩
    cases h with
    | object h => exact h
  | list items =>
    show (if items.length = names.length then some items else none) = _ ↔ _
    constructor
    · intro h
      obtain ⟨hl, h⟩ := Option.ite_none_right_eq_some.mp h
      cases h
      exact Spells.list hl
    · intro h
      cases h with
      | list hl => exact if_pos hl
  | _ => exact ⟨nofun, nofun⟩

/-- The value spells a structure of which these fields are written. -/
inductive SpellsSome (names : List String) : List (Option Value) → Value → Prop
  | object (fields : List (String × Value)) :
      SpellsSome names (names.map (SortedMap.lookupEntry · fields)) (.object fields)
  -- A list may end early.
  | list {items : List Value} (h : items.length ≤ names.length) :
      SpellsSome names (items.map some ++ List.replicate (names.length - items.length) none)
        (.list items)

theorem optional?_eq_some_iff {names : List String} {values : List (Option Value)} {value : Value} :
    optional? names value = some values ↔ SpellsSome names values value := by
  cases value with
  | object fields =>
    constructor
    · rintro ⟨⟩
      exact SpellsSome.object fields
    · rintro ⟨⟩
      rfl
  | list items =>
    show (if items.length ≤ names.length then some _ else none) = _ ↔ _
    constructor
    · intro h
      obtain ⟨hl, h⟩ := Option.ite_none_right_eq_some.mp h
      cases h
      exact SpellsSome.list hl
    · intro h
      cases h with
      | list hl => exact if_pos hl
  | _ => exact ⟨nofun, nofun⟩

/-- A written field spells the value, and a field that is not written stands for the default. -/
def SpellsOr {α : Type} (default : α) (spells : α → Value → Prop) (x : α) : Option Value → Prop
  | none => x = default
  | some value => spells x value

/-- The fields spell the entries of the map, in any order. -/
def SpellsMap {α : Type} (spells : α → Value → Prop) (map : SortedMap α)
    (fields : List (String × Value)) : Prop :=
  ∃ entries, SortedMap.ofList entries = map ∧
    List.Forall₂ (fun field entry => field.1 = entry.1 ∧ spells entry.2 field.2) fields entries

section

variable {α : Type} {read : Value → Option α} {spells : α → Value → Prop}
  (h : ∀ value x, read value = some x ↔ spells x value)

include h

theorem withDefault_eq_some_iff {default x : α} {value : Option Value} :
    withDefault default read value = some x ↔ SpellsOr default spells x value := by
  cases value with
  | none => exact Option.some_inj.trans eq_comm
  | some value => exact h value x

theorem map?_eq_some_iff {map : SortedMap α} {value : Value} :
    map? read value = some map ↔
      ∃ fields, value = .object fields ∧ SpellsMap spells map fields := by
  cases value with
  | object fields =>
    have hentry : ∀ (field : String × Value) (entry : String × α),
        (read field.2).map (field.1, ·) = some entry ↔
          field.1 = entry.1 ∧ spells entry.2 field.2 := by
      intro field entry
      rw [Option.map_eq_some_iff]
      constructor
      · rintro ⟨x, hx, rfl⟩
        exact ⟨rfl, (h _ _).mp hx⟩
      · rintro ⟨hk, hx⟩
        exact ⟨entry.2, (h _ _).mpr hx, Prod.ext hk rfl⟩
    show Option.map _ (fields.mapM _) = _ ↔ _
    simp only [Option.map_eq_some_iff, mapM_eq_some_iff, hentry]
    constructor
    · rintro ⟨entries, hentries, hmap⟩
      exact ⟨fields, rfl, entries, hmap, hentries⟩
    · rintro ⟨_, ⟨⟩, entries, hmap, hentries⟩
      exact ⟨entries, hentries, hmap⟩
  | _ =>
    constructor
    · nofun
    · rintro ⟨_, ⟨⟩, _⟩

end

end Serial

open Serial

/-! ## Types -/

namespace Record

/-- Sixty-four signed bits hold the primary key. -/
def FitsWord (record : Record) : Prop := -Int.pow 2 63 ≤ record.id ∧ record.id < Int.pow 2 63

/-- The value spells the record. -/
def Spelled (record : Record) (value : Value) : Prop :=
  record.FitsWord ∧ ∃ fields, SortedMap.ofList fields = record.attributes ∧
    Spells ["model", "id", "attributes"]
      [.text record.model, .int record.id, .object fields] value

theorem ofValue?_eq_some_iff {value : Value} {record : Record} :
    ofValue? value = some record ↔ record.Spelled value := by
  unfold ofValue?
  simp only [Option.bind_eq_bind, Option.bind_eq_some_iff, required?_eq_some_iff]
  constructor
  · rintro ⟨values, hvalues, h⟩
    split at h
    · simp only [Option.bind_eq_some_iff, Value.asText?_eq_some_iff, Value.asInt?_eq_some_iff,
        attributes?_eq_some_iff] at h
      obtain ⟨model, rfl, id, ⟨rfl, hid⟩, _, ⟨fields, rfl, rfl⟩, ⟨⟩⟩ := h
      exact ⟨hid, fields, rfl, hvalues⟩
    · cases h
  · rintro ⟨hid, fields, hfields, hvalues⟩
    refine ⟨_, hvalues, ?_⟩
    simp only [Option.bind_eq_some_iff, Value.asText?_eq_some_iff, Value.asInt?_eq_some_iff,
      attributes?_eq_some_iff]
    exact ⟨_, rfl, _, ⟨rfl, hid⟩, _, ⟨fields, rfl, hfields⟩, rfl⟩

end Record

namespace Association

namespace Kind

/-- The name of a kind without fields. -/
inductive Named : Kind → String → Prop
  | belongsTo : Named .belongsTo "BelongsTo"
  | hasOne : Named .hasOne "HasOne"
  | hasMany : Named .hasMany "HasMany"

/-- The value spells the kind. -/
inductive Spelled : Kind → Value → Prop
  | name {kind : Kind} {name : String} (h : Named kind name) : Spelled kind (.text name)
  | null {kind : Kind} {name : String} (h : Named kind name) :
      Spelled kind (.object [(name, .null)])
  | manyToMany {through sourceKey targetKey : String} {fields : List (String × Value)}
      (h : Spells ["through", "source_key", "target_key"]
        [.text through, .text sourceKey, .text targetKey] (.object fields)) :
      Spelled (.manyToMany through sourceKey targetKey) (.object [("ManyToMany", .object fields)])

theorem ofName?_eq_some_iff {name : String} {kind : Kind} :
    ofName? name = some kind ↔ Named kind name := by
  constructor
  · intro h
    unfold ofName? at h
    split at h
    · subst name
      cases h
      exact .belongsTo
    · split at h
      · subst name
        cases h
        exact .hasOne
      · split at h
        · subst name
          cases h
          exact .hasMany
        · cases h
  · rintro (_ | _ | _) <;> rfl

theorem ofValue?_eq_some_iff {value : Value} {kind : Kind} :
    ofValue? value = some kind ↔ kind.Spelled value := by
  constructor
  · intro h
    unfold ofValue? at h
    split at h
    · exact .name (ofName?_eq_some_iff.mp h)
    · exact .null (ofName?_eq_some_iff.mp h)
    · simp only [Option.bind_eq_bind, Option.bind_eq_some_iff, required?_eq_some_iff] at h
      obtain ⟨values, hvalues, h⟩ := h
      split at h
      · simp only [Option.bind_eq_some_iff, Value.asText?_eq_some_iff] at h
        obtain ⟨through, rfl, sourceKey, rfl, targetKey, rfl, ⟨⟩⟩ := h
        exact .manyToMany hvalues
      · cases h
    · cases h
  · intro h
    cases h with
    | name h => exact ofName?_eq_some_iff.mpr h
    | null h => exact ofName?_eq_some_iff.mpr h
    | manyToMany h =>
      show (required? _ _).bind _ = _
      rw [required?_eq_some_iff.mpr h]
      rfl

end Kind

/-- The value spells the association. -/
def Spelled (association : Association) (value : Value) : Prop :=
  ∃ kind, association.kind.Spelled kind ∧
    Spells ["name", "kind", "target_model", "foreign_key"]
      [.text association.name, kind, .text association.targetModel,
        .text association.foreignKey] value

theorem ofValue?_eq_some_iff {value : Value} {association : Association} :
    ofValue? value = some association ↔ association.Spelled value := by
  unfold ofValue?
  simp only [Option.bind_eq_bind, Option.bind_eq_some_iff, required?_eq_some_iff]
  constructor
  · rintro ⟨values, hvalues, h⟩
    split at h
    · simp only [Option.bind_eq_some_iff, Value.asText?_eq_some_iff,
        Kind.ofValue?_eq_some_iff] at h
      obtain ⟨name, rfl, kind, hkind, target, rfl, key, rfl, ⟨⟩⟩ := h
      exact ⟨_, hkind, hvalues⟩
    · cases h
  · rintro ⟨kind, hkind, hvalues⟩
    refine ⟨_, hvalues, ?_⟩
    simp only [Option.bind_eq_some_iff, Value.asText?_eq_some_iff, Kind.ofValue?_eq_some_iff]
    exact ⟨_, rfl, _, hkind, _, rfl, _, rfl, rfl⟩

end Association

namespace Schema

/-- The value spells the schema. -/
def Spelled (schema : Schema) (value : Value) : Prop :=
  ∃ fields, SpellsMap Association.Spelled schema.associations fields ∧
    Spells ["model", "associations"] [.text schema.model, .object fields] value

theorem ofValue?_eq_some_iff {value : Value} {schema : Schema} :
    ofValue? value = some schema ↔ schema.Spelled value := by
  have hmap : ∀ value map, map? Association.ofValue? value = some map ↔ _ := fun _ _ =>
    map?_eq_some_iff fun _ _ => Association.ofValue?_eq_some_iff
  unfold ofValue?
  simp only [Option.bind_eq_bind, Option.bind_eq_some_iff, required?_eq_some_iff]
  constructor
  · rintro ⟨values, hvalues, h⟩
    split at h
    · simp only [Option.bind_eq_some_iff, Value.asText?_eq_some_iff, hmap] at h
      obtain ⟨model, rfl, associations, ⟨fields, rfl, hfields⟩, ⟨⟩⟩ := h
      exact ⟨fields, hfields, hvalues⟩
    · cases h
  · rintro ⟨fields, hfields, hvalues⟩
    refine ⟨_, hvalues, ?_⟩
    simp only [Option.bind_eq_some_iff, Value.asText?_eq_some_iff, hmap]
    exact ⟨_, rfl, _, ⟨fields, rfl, hfields⟩, rfl⟩

end Schema

namespace Settings

/-- The value spells the settings; what it leaves out has its default. -/
def Spelled (settings : Settings) (value : Value) : Prop :=
  ∃ hashSuffix resetsCounters irregularPlurals,
    SpellsSome ["hash_suffix", "reset_sequences_per_block", "irregular_plurals"]
      [hashSuffix, resetsCounters, irregularPlurals] value ∧
    SpellsOr "_" Value.IsText settings.hashSuffix hashSuffix ∧
    SpellsOr true (fun b value => value = .bool b) settings.resetsCounters resetsCounters ∧
    SpellsOr ∅ (fun map value => ∃ fields, value = .object fields ∧
      SpellsMap Value.IsText map fields)
      settings.irregularPlurals irregularPlurals

theorem ofValue?_eq_some_iff {value : Value} {settings : Settings} :
    ofValue? value = some settings ↔ settings.Spelled value := by
  have htext : ∀ default x value, withDefault default Value.asText? value = some x ↔ _ :=
    fun _ _ _ => withDefault_eq_some_iff fun _ _ => Value.asText?_eq_some_iff
  have hbool : ∀ default x value, withDefault default bool? value = some x ↔ _ :=
    fun _ _ _ => withDefault_eq_some_iff fun _ _ => bool?_eq_some_iff
  have hmap : ∀ default x value, withDefault default (map? Value.asText?) value = some x ↔ _ :=
    fun _ _ _ => withDefault_eq_some_iff fun _ _ =>
      map?_eq_some_iff fun _ _ => Value.asText?_eq_some_iff
  unfold ofValue?
  simp only [Option.bind_eq_bind, Option.bind_eq_some_iff, optional?_eq_some_iff]
  constructor
  · rintro ⟨values, hvalues, h⟩
    split at h
    · simp only [Option.bind_eq_some_iff, htext, hbool, hmap] at h
      obtain ⟨suffix, hsuffix, resets, hresets, plurals, hplurals, ⟨⟩⟩ := h
      exact ⟨_, _, _, hvalues, hsuffix, hresets, hplurals⟩
    · cases h
  · rintro ⟨_, _, _, hvalues, hsuffix, hresets, hplurals⟩
    refine ⟨_, hvalues, ?_⟩
    simp only [Option.bind_eq_some_iff, htext, hbool, hmap]
    exact ⟨_, hsuffix, _, hresets, _, hplurals, rfl⟩

end Settings

end Fixtures
