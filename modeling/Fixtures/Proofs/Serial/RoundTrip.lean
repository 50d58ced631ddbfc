import Fixtures.Proofs.Serial.Spelling

/-!
# Round trips

What is written is a spelling of what it was written from, so it is read back as the same.  A value
in any other spelling is brought into the written form by reading and writing it once; doing so
again changes nothing (`Serial.round_trips`).
-/

namespace Fixtures

namespace Serial

/-- The written form of what the value spells. -/
def normalize? {α : Type} (write : α → Value) (read : Value → Option α) (value : Value) :
    Option Value :=
  (read value).map write

/-- A writer and a reader that belong together. -/
structure RoundTrip {α : Type} (Spelled : α → Value → Prop) (Valid : α → Prop)
    (write : α → Value) (read : Value → Option α) : Prop where
  -- Every spelling is read as what it spells, and nothing else is read.
  read_eq_some_iff : ∀ value x, read value = some x ↔ Spelled x value
  read_write_iff : ∀ x, read (write x) = some x ↔ Valid x
  read_write_of_read : ∀ value x, read value = some x → read (write x) = some x
  normalize?_idem : ∀ value form,
    normalize? write read value = some form → normalize? write read form = some form

/-- It is enough that the written form is a spelling, and that only what is valid is spelled. -/
theorem RoundTrip.of_spelled {α : Type} {Spelled : α → Value → Prop} {Valid : α → Prop}
    {write : α → Value} {read : Value → Option α}
    (hread : ∀ value x, read value = some x ↔ Spelled x value)
    (hwrite : ∀ x, Valid x → Spelled x (write x))
    (hvalid : ∀ x value, Spelled x value → Valid x) : RoundTrip Spelled Valid write read := by
  have valid {value : Value} {x : α} (h : read value = some x) : Valid x :=
    hvalid x value ((hread value x).mp h)
  have back {x : α} (h : Valid x) : read (write x) = some x := (hread _ x).mpr (hwrite x h)
  refine ⟨hread, fun x => ⟨valid, back⟩, fun value x h => back (valid h), fun value form h => ?_⟩
  obtain ⟨x, hx, rfl⟩ := Option.map_eq_some_iff.mp h
  exact Option.map_eq_some_iff.mpr ⟨x, back (valid hx), rfl⟩

/-- The entries of a written map spell it. -/
theorem spellsMap_map {α : Type} {spells : α → Value → Prop} {write : α → Value}
    (h : ∀ x, spells x (write x)) (map : SortedMap α) :
    SpellsMap spells map (map.map write).entries := by
  refine ⟨map.entries, SortedMap.ofList_entries map, List.forall₂_map_left_iff.mpr ?_⟩
  exact List.forall₂_same.mpr fun entry _ => ⟨rfl, h entry.2⟩

end Serial

open Serial

theorem Record.spelled_toValue {record : Record} (h : record.FitsWord) :
    record.Spelled record.toValue :=
  ⟨h, record.attributes.entries, SortedMap.ofList_entries _,
    Spells.object (.cons rfl (.cons rfl (.cons rfl .nil)))⟩

theorem Association.Kind.spelled_toValue (kind : Kind) : kind.Spelled kind.toValue := by
  cases kind with
  | belongsTo => exact .name .belongsTo
  | hasOne => exact .name .hasOne
  | hasMany => exact .name .hasMany
  | manyToMany through sourceKey targetKey =>
    exact .manyToMany (Spells.object (.cons rfl (.cons rfl (.cons rfl .nil))))

theorem Association.spelled_toValue (association : Association) :
    association.Spelled association.toValue :=
  ⟨_, association.kind.spelled_toValue,
    Spells.object (.cons rfl (.cons rfl (.cons rfl (.cons rfl .nil))))⟩

theorem Schema.spelled_toValue (schema : Schema) : schema.Spelled schema.toValue :=
  ⟨_, spellsMap_map Association.spelled_toValue schema.associations,
    Spells.object (.cons rfl (.cons rfl .nil))⟩

theorem Settings.spelled_toValue (settings : Settings) : settings.Spelled settings.toValue :=
  have text (s : String) : Value.IsText s (.text s) := rfl
  ⟨some _, some _, some _, optional?_eq_some_iff.mp rfl, rfl, rfl, _, rfl,
    spellsMap_map text settings.irregularPlurals⟩

namespace Serial

/-- Records whose key fits a word, kinds, associations, schemas and settings are read back from
what is written of them, and every spelling of one has one normal form. -/
theorem round_trips :
    RoundTrip Record.Spelled Record.FitsWord Record.toValue Record.ofValue? ∧
    RoundTrip Association.Kind.Spelled (fun _ => True) Association.Kind.toValue
      Association.Kind.ofValue? ∧
    RoundTrip Association.Spelled (fun _ => True) Association.toValue Association.ofValue? ∧
    RoundTrip Schema.Spelled (fun _ => True) Schema.toValue Schema.ofValue? ∧
    RoundTrip Settings.Spelled (fun _ => True) Settings.toValue Settings.ofValue? := by
  refine ⟨?record, ?kind, ?association, ?schema, ?settings⟩
  case record =>
    exact .of_spelled (fun _ _ => Record.ofValue?_eq_some_iff) (fun _ h => Record.spelled_toValue h)
      fun _ _ h => h.1
  case kind =>
    exact .of_spelled (fun _ _ => Association.Kind.ofValue?_eq_some_iff)
      (fun kind _ => kind.spelled_toValue) fun _ _ _ => trivial
  case association =>
    exact .of_spelled (fun _ _ => Association.ofValue?_eq_some_iff)
      (fun association _ => association.spelled_toValue) fun _ _ _ => trivial
  case schema =>
    exact .of_spelled (fun _ _ => Schema.ofValue?_eq_some_iff)
      (fun schema _ => schema.spelled_toValue) fun _ _ _ => trivial
  case settings =>
    exact .of_spelled (fun _ _ => Settings.ofValue?_eq_some_iff)
      (fun settings _ => settings.spelled_toValue) fun _ _ _ => trivial

/-- A record in a list, and settings of which only the suffix is written. -/
theorem round_trips_of_lists :
    (let value := Value.list [.text "User", .int 7, .object [("name", .text "Ann")]]
      let record : Record := ⟨"User", 7, .ofList [("name", .text "Ann")]⟩
      Record.ofValue? value = some record ∧ Record.ofValue? record.toValue = some record) ∧
    (let value := Value.list [.text "__"]
      let form := Settings.toValue { hashSuffix := "__" }
      normalize? Settings.toValue Settings.ofValue? value = some form ∧
        normalize? Settings.toValue Settings.ofValue? form = some form) := by
  obtain ⟨record, -, -, -, settings⟩ := round_trips
  have read : Record.ofValue? (.list [.text "User", .int 7, .object [("name", .text "Ann")]]) =
      some ⟨"User", 7, .ofList [("name", .text "Ann")]⟩ := by decide
  have normal : normalize? Settings.toValue Settings.ofValue? (.list [.text "__"]) =
      some (Settings.toValue { hashSuffix := "__" }) := by decide
  exact ⟨⟨read, record.read_write_of_read _ _ read⟩, normal, settings.normalize?_idem _ _ normal⟩

end Serial

end Fixtures
