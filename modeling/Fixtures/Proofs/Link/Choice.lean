import Fixtures.Link.Resolution
import Mathlib.Data.List.Induction

/-!
# The association that a link goes through

Whichever way it is chosen, the association of a link is one of the schema of its owner's model, and
it leads to the model of the other side (`Catalog.resolveLink_declared`).  Of the pairs of a link
those are written that come first for an instance that keeps the key (`mem_firstPerHolder`).
-/

namespace Fixtures

/-! ## Schemas -/

/-- The schemas that are made by adding associations to a new one. -/
inductive Schema.Built : Schema → Prop
  | new (model : String) : Built { model }
  | add {schema : Schema} (h : Built schema) (association : Association) :
      Built (schema.add association)

theorem Schema.Built.name_of_association {schema : Schema} (h : schema.Built) {name : String}
    {association : Association} (ha : schema.association? name = some association) :
    association.name = name := by
  induction h with
  | new model => cases ha
  | add _ added ih =>
    rw [Schema.association?_add] at ha
    split at ha
    · rename_i hn
      cases ha
      exact hn.symm
    · exact ih ha

def Catalog.SchemasBuilt (catalog : Catalog) : Prop :=
  ∀ model schema, catalog.schema? model = some schema → schema.Built

/-- The associations to a model, each with the name under which it is found, in the order of these
names. -/
theorem Schema.towards_eq_map (schema : Schema) (target : String) :
    ∃ entries : List (String × Association), SortedMap.Increasing entries ∧
      schema.towards target = entries.map (·.2) ∧
      ∀ name association, (name, association) ∈ entries ↔
        schema.association? name = some association ∧ association.targetModel = target := by
  refine ⟨schema.associations.entries.filter fun entry => entry.2.targetModel == target,
    schema.associations.sorted.filter _, List.filter_map, fun name association => ?_⟩
  rw [List.mem_filter, SortedMap.mem_entries_iff, beq_iff_eq]
  rfl

theorem Schema.mem_towards {schema : Schema} {target : String} {association : Association}
    (h : association ∈ schema.towards target) :
    (∃ name, schema.association? name = some association) ∧ association.targetModel = target := by
  obtain ⟨entries, -, ht, hm⟩ := schema.towards_eq_map target
  rw [ht] at h
  obtain ⟨⟨name, found⟩, he, rfl⟩ := List.mem_map.mp h
  obtain ⟨ha, htarget⟩ := (hm name found).mp he
  exact ⟨⟨name, ha⟩, htarget⟩

/-! ## Choices -/

/-- The owner's model has the association, under some name, and it leads to the other model. -/
structure Resolution.Declared (catalog : Catalog) (factories : Factory × Factory)
    (resolution : Resolution) : Prop where
  schema : ∃ schema name, catalog.schema? (resolution.owner.of factories).model = some schema ∧
    schema.association? name = some resolution.association
  target : resolution.association.targetModel = (resolution.owner.other.of factories).model

namespace Catalog

variable {catalog : Catalog} {factories : Factory × Factory} {resolution : Resolution}

theorem named?_declared {name : String} {side : Side}
    (h : catalog.named? name factories side = some resolution) :
    resolution.Declared catalog factories := by
  unfold named? at h
  cases hs : catalog.schema? (side.of factories).model with
  | none =>
    rw [hs] at h
    cases h
  | some schema =>
    rw [hs, Option.bind_some] at h
    cases ha : schema.association? name with
    | none =>
      rw [ha] at h
      cases h
    | some association =>
      rw [ha] at h
      dsimp only at h
      split at h
      · rename_i ht
        cases h
        exact ⟨⟨schema, name, hs, ha⟩, ht⟩
      · cases h

theorem candidates_declared {association : Association} {side : Side}
    (h : association ∈ catalog.candidates factories side) :
    ({ owner := side, association } : Resolution).Declared catalog factories := by
  unfold candidates at h
  cases hs : catalog.schema? (side.of factories).model with
  | none =>
    rw [hs] at h
    cases h
  | some schema =>
    rw [hs] at h
    obtain ⟨⟨name, ha⟩, ht⟩ := Schema.mem_towards h
    exact ⟨⟨schema, name, hs, ha⟩, ht⟩

theorem unnamed_declared {sides : List Side}
    (h : catalog.unnamed factories sides = .ok resolution) :
    resolution.Declared catalog factories := by
  induction sides with
  | nil => cases h
  | cons side sides ih =>
    unfold unnamed at h
    split at h
    · exact ih h
    · rename_i association hc
      cases h
      exact candidates_declared (hc ▸ List.mem_singleton_self association)
    · cases h

theorem resolveLink_declared {source target : Factory} {via : Option String}
    (h : catalog.resolveLink source target via = .ok resolution) :
    resolution.Declared catalog (source, target) := by
  have hc : catalog.chooseAssociation source target via = .ok resolution := by
    unfold resolveLink at h
    split at h
    · cases h
      assumption
    · cases h
  unfold chooseAssociation at hc
  split at hc
  · -- The side that the name comes from is asked first.
    split at hc
    · rename_i hn
      cases hc
      exact named?_declared hn
    · split at hc
      · rename_i hn
        cases hc
        exact named?_declared hn
      · cases hc
  · exact unnamed_declared hc

theorem unnamed_error {sides : List Side} {fault : LinkFault}
    (h : catalog.unnamed factories sides = .error fault) (name : String) (position : Nat) :
    fault ≠ .notPersisted name position := by
  induction sides with
  | nil =>
    cases h
    exact nofun
  | cons side sides ih =>
    unfold unnamed at h
    split at h
    · exact ih h
    · cases h
    · cases h
      exact nofun

/-- A choice fails for want of one association, not for anything about instances. -/
theorem chooseAssociation_error {source target : Factory} {via : Option String}
    {fault : LinkFault} (h : catalog.chooseAssociation source target via = .error fault)
    (name : String) (position : Nat) : fault ≠ .notPersisted name position := by
  unfold chooseAssociation at h
  split at h
  · split at h
    · cases h
    · split at h
      · cases h
      · cases h
        exact nofun
  · exact unnamed_error h name position

end Catalog

theorem Resolution.Declared.association? {catalog : Catalog} {factories : Factory × Factory}
    {resolution : Resolution} (h : resolution.Declared catalog factories)
    (hb : catalog.SchemasBuilt) :
    ∃ schema, catalog.schema? (resolution.owner.of factories).model = some schema ∧
      schema.association? resolution.association.name = some resolution.association := by
  obtain ⟨schema, name, hs, ha⟩ := h.schema
  rw [← (hb _ schema hs).name_of_association ha] at ha
  exact ⟨schema, hs, ha⟩

/-! ## Pairs that are written -/

namespace Resolution

variable {resolution : Resolution}

theorem holder?_of_belongsTo (hk : resolution.association.kind = .belongsTo) :
    resolution.holder? = some resolution.owner := by
  unfold holder? Association.keyOwner
  rw [hk]

theorem holder?_of_has
    (hk : resolution.association.kind = .hasOne ∨ resolution.association.kind = .hasMany) :
    resolution.holder? = some resolution.owner.other := by
  unfold holder? Association.keyOwner
  rcases hk with hk | hk <;> rw [hk]

theorem written_of_holder? {side : Side} (h : resolution.holder? = some side)
    (pairs : List (Nat × Nat)) : resolution.written pairs = firstPerHolder side.of [] pairs := by
  unfold written
  rw [h]

theorem written_of_manyToMany {through key key' : String}
    (hk : resolution.association.kind = .manyToMany through key key') (pairs : List (Nat × Nat)) :
    resolution.written pairs = pairs := by
  unfold written holder? Association.keyOwner
  rw [hk]

end Resolution

section

variable {holder : Nat × Nat → Nat} {seen : List Nat} {pairs : List (Nat × Nat)} {pair : Nat × Nat}

/-- A pair is kept if it is the first one for its holder. -/
theorem mem_firstPerHolder : pair ∈ firstPerHolder holder seen pairs ↔
    holder pair ∉ seen ∧ pairs.find? (fun p => holder p == holder pair) = some pair := by
  induction pairs generalizing seen with
  | nil => simp [firstPerHolder]
  | cons first rest ih =>
    unfold firstPerHolder
    rw [List.find?_cons]
    by_cases he : holder first = holder pair
    · rw [he, beq_self_eq_true]
      by_cases hs : holder pair ∈ seen
      · rw [if_pos hs, ih]
        exact ⟨fun h => absurd hs h.1, fun h => absurd hs h.1⟩
      · -- The rest has no other pair for this holder to offer.
        rw [if_neg hs, List.mem_cons, ih]
        constructor
        · rintro (rfl | h)
          · exact ⟨hs, rfl⟩
          · exact absurd List.mem_cons_self h.1
        · exact fun h => Or.inl (Option.some.inj h.2).symm
    · rw [beq_eq_false_iff_ne.mpr he]
      split
      · exact ih
      · rw [List.mem_cons, ih, List.mem_cons, not_or]
        constructor
        · rintro (rfl | h)
          · exact absurd rfl he
          · exact ⟨h.1.2, h.2⟩
        · exact fun h => Or.inr ⟨⟨Ne.symm he, h.1⟩, h.2⟩

theorem firstPerHolder_nodup (holder : Nat × Nat → Nat) (seen : List Nat)
    (pairs : List (Nat × Nat)) : ((firstPerHolder holder seen pairs).map holder).Nodup := by
  induction pairs generalizing seen with
  | nil => exact List.nodup_nil
  | cons first rest ih =>
    unfold firstPerHolder
    split
    · exact ih seen
    · rw [List.map_cons, List.nodup_cons]
      refine ⟨fun hm => ?_, ih _⟩
      obtain ⟨pair, hp, he⟩ := List.mem_map.mp hm
      exact (mem_firstPerHolder.mp hp).1 (he ▸ List.mem_cons_self)

/-- What is kept of a list of pairs is decided from its beginning on: of each holder, the pair in
which it occurs for the first time. -/
inductive KeptFirst (holder : Nat × Nat → Nat) : List (Nat × Nat) → List (Nat × Nat) → Prop
  | nil : KeptFirst holder [] []
  | first {pairs kept : List (Nat × Nat)} {pair : Nat × Nat} (h : KeptFirst holder pairs kept)
      (hn : ∀ earlier ∈ pairs, holder earlier ≠ holder pair) :
      KeptFirst holder (pairs ++ [pair]) (kept ++ [pair])
  | again {pairs kept : List (Nat × Nat)} {pair : Nat × Nat} (h : KeptFirst holder pairs kept)
      (he : ∃ earlier ∈ pairs, holder earlier = holder pair) :
      KeptFirst holder (pairs ++ [pair]) kept

theorem firstPerHolder_concat (holder : Nat × Nat → Nat) (seen : List Nat)
    (pairs : List (Nat × Nat)) (pair : Nat × Nat) :
    firstPerHolder holder seen (pairs ++ [pair]) = firstPerHolder holder seen pairs ++
      if holder pair ∈ seen ∨ ∃ earlier ∈ pairs, holder earlier = holder pair then []
      else [pair] := by
  induction pairs generalizing seen with
  | nil => simp [firstPerHolder]
  | cons first rest ih =>
    rw [List.cons_append]
    unfold firstPerHolder
    by_cases hs : holder first ∈ seen
    · have hiff : (holder pair ∈ seen ∨ ∃ earlier ∈ rest, holder earlier = holder pair) ↔
          holder pair ∈ seen ∨ ∃ earlier ∈ first :: rest, holder earlier = holder pair := by grind
      rw [if_pos hs, if_pos hs, ih]
      simp only [hiff]
    · have hiff : (holder pair ∈ holder first :: seen ∨
          ∃ earlier ∈ rest, holder earlier = holder pair) ↔
          holder pair ∈ seen ∨ ∃ earlier ∈ first :: rest, holder earlier = holder pair := by grind
      rw [if_neg hs, if_neg hs, ih, List.cons_append]
      simp only [hiff]

theorem keptFirst_firstPerHolder (holder : Nat × Nat → Nat) (pairs : List (Nat × Nat)) :
    KeptFirst holder pairs (firstPerHolder holder [] pairs) := by
  induction pairs using List.reverseRecOn with
  | nil => exact KeptFirst.nil
  | append_singleton pairs pair ih =>
    rw [firstPerHolder_concat]
    by_cases he : ∃ earlier ∈ pairs, holder earlier = holder pair
    · rw [if_pos (Or.inr he), List.append_nil]
      exact KeptFirst.again ih he
    · rw [if_neg (not_or.mpr ⟨List.not_mem_nil, he⟩)]
      refine KeptFirst.first ih fun earlier hm hh => he ⟨earlier, hm, hh⟩

theorem mem_of_mem_firstPerHolder (h : pair ∈ firstPerHolder holder seen pairs) : pair ∈ pairs :=
  List.mem_of_find?_eq_some (mem_firstPerHolder.mp h).2

end

end Fixtures
