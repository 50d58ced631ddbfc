import Fixtures.Names.Plural
import Mathlib.Data.List.TakeWhile

/-!
# Plurals of plurals

Whichever rule makes a regular plural, it ends in a single `s` (`endsInSingleS_regularPlural`), and
a word with this ending is its own plural (`regularPlural_eq_self_iff`).  So pluralizing again
changes nothing.  What an identifier has before its last word takes no part in this: there is one
way only to cut it behind its last underscore (`IsStem.cut_append`), and the plural keeps what is
before the cut.
-/

namespace Fixtures

/-! ## Endings -/

/-- The letter `s` in either case. -/
def IsS (c : Char) : Prop := c = 's' ∨ c = 'S'

/-- The word ends in an `s` that has no other `s` before it. -/
def EndsInSingleS (word : List Char) : Prop :=
  ∃ before s, word = before ++ [s] ∧ IsS s ∧ ∀ c, before.getLast? = some c → ¬IsS c

theorem toLower_eq_s_iff {c : Char} : c.toLower = 's' ↔ IsS c := by
  unfold IsS Char.toLower
  simp only [Char.ext_iff, ← UInt32.toNat_inj]
  have hs : 's'.val.toNat = 115 := rfl
  have hS : 'S'.val.toNat = 83 := rfl
  split
  · rename_i h
    have hlo : 65 ≤ c.val.toNat := UInt32.le_iff_toNat_le.mp h.1
    have hhi : c.val.toNat ≤ 90 := UInt32.le_iff_toNat_le.mp h.2
    have hval : (c.val + ('a'.val - 'A'.val)).toNat = c.val.toNat + 32 := by
      rw [UInt32.toNat_add]
      show (c.val.toNat + 32) % 2 ^ 32 = _
      omega
    rw [hval]
    omega
  · rename_i h
    have hout : ¬(65 ≤ c.val.toNat ∧ c.val.toNat ≤ 90) := fun hc =>
      h ⟨UInt32.le_iff_toNat_le.mpr hc.1, UInt32.le_iff_toNat_le.mpr hc.2⟩
    omega

namespace Ending

theorem ofReversed_eq_plural_iff {word : List Char} :
    ofReversed word = .plural ↔
      ∃ rest, word = 's' :: rest ∧ ∀ c, rest.head? = some c → c ≠ 's' := by
  constructor
  · intro h
    unfold ofReversed at h
    split at h
    case h_6 => split at h <;> cases h
    case h_8 rest hs =>
      refine ⟨rest, rfl, ?_⟩
      rintro c hc rfl
      obtain ⟨tail, ht⟩ := List.head?_eq_some_iff.mp hc
      exact hs tail ht
    all_goals cases h
  · rintro ⟨rest, rfl, hs⟩
    cases rest with
    | nil => rfl
    | cons c rest =>
      have hc : c ≠ 's' := hs c rfl
      simp [ofReversed, hc]

/-- A word with an `s` at its end is a hiss or counts as a plural. -/
theorem ofReversed_ne_plain (rest : List Char) : ofReversed ('s' :: rest) ≠ .plain := by
  rcases rest with _ | ⟨c, rest⟩
  · decide
  · by_cases hc : c = 's' <;> simp [ofReversed, hc]

theorem of_concat (before : List Char) (c : Char) :
    Ending.of (before ++ [c]) = ofReversed (c.toLower :: (before.map Char.toLower).reverse) := by
  unfold Ending.of
  rw [List.map_append, List.reverse_append]
  rfl

theorem of_eq_plural_iff {word : List Char} : Ending.of word = .plural ↔ EndsInSingleS word := by
  rcases List.eq_nil_or_concat word with rfl | ⟨before, last, rfl⟩
  · constructor
    · nofun
    · rintro ⟨before, s, h, -⟩
      simp at h
  · have hlast : ∀ c, (before.map Char.toLower).reverse.head? = some c ↔
        ∃ b, before.getLast? = some b ∧ b.toLower = c := by
      intro c
      rw [List.head?_reverse, List.getLast?_map, Option.map_eq_some_iff]
    rw [List.concat_eq_append, of_concat, ofReversed_eq_plural_iff]
    constructor
    · rintro ⟨rest, he, hrest⟩
      obtain ⟨hs, rfl⟩ := List.cons.inj he
      refine ⟨before, last, rfl, toLower_eq_s_iff.mp hs, fun c hc hS => ?_⟩
      exact hrest _ ((hlast _).mpr ⟨c, hc, rfl⟩) (toLower_eq_s_iff.mpr hS)
    · rintro ⟨before', s, he, hs, hbefore⟩
      obtain ⟨rfl, hlast'⟩ := List.append_inj' he rfl
      cases hlast'
      refine ⟨_, by rw [toLower_eq_s_iff.mpr hs], fun c hc hcs => ?_⟩
      obtain ⟨b, hb, rfl⟩ := (hlast c).mp hc
      exact hbefore b hb (toLower_eq_s_iff.mp hcs)

end Ending

instance (word : List Char) : Decidable (EndsInSingleS word) :=
  decidable_of_iff _ Ending.of_eq_plural_iff

/-! ## Words -/

theorem endsInSingleS_regularPlural (word : List Char) : EndsInSingleS (regularPlural word) := by
  unfold regularPlural
  cases h : Ending.of word with
  | hiss => exact ⟨word ++ ['e'], 's', by simp, Or.inl rfl, by simp [IsS]⟩
  | consonantY => exact ⟨word.dropLast ++ ['i', 'e'], 's', by simp, Or.inl rfl, by simp [IsS]⟩
  | plural => exact Ending.of_eq_plural_iff.mp h
  | plain =>
    refine ⟨word, 's', rfl, Or.inl rfl, fun c hc hs => ?_⟩
    obtain ⟨before, rfl⟩ := List.getLast?_eq_some_iff.mp hc
    rw [Ending.of_concat, toLower_eq_s_iff.mpr hs] at h
    exact Ending.ofReversed_ne_plain _ h

/-- The words that are plurals already are those that end as the rules make plurals end. -/
theorem regularPlural_eq_self_iff {word : List Char} :
    regularPlural word = word ↔ EndsInSingleS word := by
  constructor
  · intro h
    exact h ▸ endsInSingleS_regularPlural word
  · intro h
    unfold regularPlural
    rw [Ending.of_eq_plural_iff.mpr h]

theorem not_mem_regularPlural {word : List Char} (h : '_' ∉ word) : '_' ∉ regularPlural word := by
  have hd : '_' ∉ word.dropLast := fun hm => h (List.dropLast_subset word hm)
  unfold regularPlural
  split <;> simp [h, hd]

/-! ## Identifiers -/

/-- What may stand before the last word of an identifier: nothing, or something that ends in an
underscore. -/
def IsStem (stem : List Char) : Prop := stem = [] ∨ ∃ before, stem = before ++ ['_']

theorem isStem_beforeLastWord (name : List Char) : IsStem (beforeLastWord name) := by
  unfold IsStem beforeLastWord
  have hhead := List.head?_dropWhile_not (· != '_') name.reverse
  cases hd : name.reverse.dropWhile (· != '_') with
  | nil => exact Or.inl rfl
  | cons c rest =>
    rw [hd] at hhead
    have hc : c = '_' := by simpa using hhead
    exact Or.inr ⟨rest.reverse, by rw [hc, List.reverse_cons]⟩

theorem not_mem_lastWord (name : List Char) : '_' ∉ lastWord name := by
  intro h
  have hp := List.mem_takeWhile_imp (List.mem_reverse.mp h)
  simp at hp

/-- There is no other way to cut an identifier behind its last underscore. -/
theorem IsStem.cut_append {stem word : List Char} (hs : IsStem stem) (hw : '_' ∉ word) :
    beforeLastWord (stem ++ word) = stem ∧ lastWord (stem ++ word) = word := by
  have hword : ∀ c ∈ word.reverse, (c != '_') = true := by
    intro c hc
    rw [bne_iff_ne]
    rintro rfl
    exact hw (List.mem_reverse.mp hc)
  -- Backwards, the word is passed over and the underscore of the stem stops the search.
  have hstem : stem.reverse.takeWhile (· != '_') = [] ∧
      stem.reverse.dropWhile (· != '_') = stem.reverse := by
    rcases hs with rfl | ⟨before, rfl⟩
    · exact ⟨rfl, rfl⟩
    · rw [List.reverse_append]
      exact ⟨rfl, rfl⟩
  unfold beforeLastWord lastWord
  rw [List.reverse_append, List.dropWhile_append_of_pos hword, List.takeWhile_append_of_pos hword,
    hstem.1, hstem.2, List.append_nil, List.reverse_reverse, List.reverse_reverse]
  exact ⟨rfl, rfl⟩

theorem plural_of_wordless {name : String} (h : lastWord name.toList = []) :
    plural ∅ name = name := by
  unfold plural
  simp [h]

theorem toList_plural {name : String} (h : lastWord name.toList ≠ []) :
    (plural ∅ name).toList =
      beforeLastWord name.toList ++ regularPlural (lastWord name.toList) := by
  unfold plural
  simp [h]

/-- The identifiers that are their own plurals. -/
theorem plural_eq_self_iff {name : String} :
    plural ∅ name = name ↔
      lastWord name.toList = [] ∨ EndsInSingleS (lastWord name.toList) := by
  by_cases h : lastWord name.toList = []
  · simp only [plural_of_wordless h, h, true_or]
  · rw [← String.toList_inj, toList_plural h, ← regularPlural_eq_self_iff]
    constructor
    · intro he
      exact Or.inr (List.append_cancel_left (he.trans (beforeLastWord_append_lastWord _).symm))
    · rintro (hw | hw)
      · exact absurd hw h
      · rw [hw, beforeLastWord_append_lastWord]

theorem lastWord_plural {name : String} (h : lastWord name.toList ≠ []) :
    lastWord (plural ∅ name).toList = regularPlural (lastWord name.toList) := by
  rw [toList_plural h]
  exact ((isStem_beforeLastWord _).cut_append (not_mem_regularPlural (not_mem_lastWord _))).2

theorem plural_plural (name : String) : plural ∅ (plural ∅ name) = plural ∅ name := by
  by_cases h : lastWord name.toList = []
  · rw [plural_of_wordless h, plural_of_wordless h]
  · rw [plural_eq_self_iff, lastWord_plural h]
    exact Or.inr (endsInSingleS_regularPlural _)

theorem plural_append {irregular : SortedMap String} {stem word : String}
    (hs : IsStem stem.toList) (hw : '_' ∉ word.toList)
    (h : irregular.get? (stem ++ word) = none) :
    plural irregular (stem ++ word) = stem ++ plural irregular word := by
  have hcut := hs.cut_append hw
  have hword : beforeLastWord word.toList = [] ∧ lastWord word.toList = word.toList := by
    simpa using IsStem.cut_append (Or.inl rfl) hw
  unfold plural
  rw [h, String.toList_append, hcut.1, hcut.2, hword.1, hword.2]
  simp only [String.ofList_toList]
  cases irregular.get? word with
  | some found => rfl
  | none =>
    -- On both sides it is left to ask whether there is a word to give an ending to.
    dsimp only
    split
    · rfl
    · rw [String.ofList_nil, String.empty_append]

/-- Pluralizing again changes nothing, and pluralizing at all changes nothing only where there is
no last word or where it ends in a single `s`.  Unless the table of irregular plurals has the whole
identifier, what comes before its last word stays as it is. -/
theorem plural_idempotent (name : String) :
    plural ∅ (plural ∅ name) = plural ∅ name ∧
    (plural ∅ name = name ↔
      lastWord name.toList = [] ∨ EndsInSingleS (lastWord name.toList)) ∧
    ∀ (irregular : SortedMap String) (before word : String), '_' ∉ word.toList →
      irregular.get? (before ++ "_" ++ word) = none →
        plural irregular (before ++ "_" ++ word) = before ++ "_" ++ plural irregular word := by
  refine ⟨plural_plural name, plural_eq_self_iff, fun irregular before word hw h => ?_⟩
  have hs : IsStem (before ++ "_").toList := Or.inr ⟨before.toList, String.toList_append⟩
  exact plural_append hs hw h

/-- An irregular word behind an underscore, in an identifier that the table does not have. -/
theorem plural_idempotent_of_person :
    let irregular := (∅ : SortedMap String).insert "person" "people"
    '_' ∉ "person".toList ∧ irregular.get? ("admin" ++ "_" ++ "person") = none ∧
      plural irregular ("admin" ++ "_" ++ "person") = "admin_people" := by
  intro irregular
  have hw : '_' ∉ "person".toList := by decide
  have h : irregular.get? ("admin" ++ "_" ++ "person") = none := by decide
  refine ⟨hw, h, ((plural_idempotent "admin_person").2.2 irregular "admin" "person" hw h).trans ?_⟩
  decide

end Fixtures
