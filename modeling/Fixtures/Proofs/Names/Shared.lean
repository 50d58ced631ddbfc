import Fixtures.Proofs.Names.Forms
import Fixtures.Proofs.Names.Plural
import Fixtures.Settings

/-!
# Names that forms share

The singleton and its hash form have names of their own as long as there is a suffix.  The forms of
the collection may share theirs with them, and then the name stands for the singleton or its hash
form (`Names.recovers_collection_iff`, `Names.recovers_collectionHash_iff`).  With an underscore for
suffix and regular plurals this happens exactly where the factory's name is its own plural
(`Names.recovers_all_iff`).
-/

namespace Fixtures

/-- An identifier with a last word does not end in an underscore. -/
theorem ne_append_underscore {name : String} (h : lastWord name.toList ≠ []) (text : String) :
    name ≠ text ++ "_" := by
  rintro rfl
  have hs : IsStem (text ++ "_").toList := Or.inr ⟨text.toList, String.toList_append⟩
  have hcut : lastWord ((text ++ "_").toList ++ []) = [] := (hs.cut_append List.not_mem_nil).2
  rw [List.append_nil] at hcut
  exact h hcut

namespace Names

/-- The name of the form stands for the form. -/
def Recovers (names : Names) (form : Form) : Prop :=
  names.form? (names.get form) = some form

theorem recovers_iff {names : Names} {form : Form} :
    names.Recovers form ↔ ∀ other, other.rank < form.rank → names.get form ≠ names.get other := by
  unfold Recovers
  rw [form?_eq_some_iff]
  constructor
  · rintro ⟨-, h⟩ other hlt he
    exact absurd hlt (Nat.not_lt.mpr (h other he.symm))
  · intro h
    refine ⟨rfl, fun other he => ?_⟩
    by_contra hlt
    exact h other (Nat.not_le.mp hlt) he.symm

variable {settings : Settings} (factory : String)

theorem recovers_singleton (names : Names) : names.Recovers .singleton :=
  recovers_iff.mpr fun _ hlt => absurd hlt (Nat.not_lt_zero _)

theorem recovers_singletonHash (hs : settings.hashSuffix ≠ "") :
    (derive settings factory).Recovers .singletonHash := by
  rw [recovers_iff]
  intro other hlt
  cases other with
  | singleton => exact fun he => hs (String.append_eq_left_iff.mp he)
  | _ => exact absurd hlt (by decide)

/-- A form of the collection has to share its name with none of the singleton only. -/
theorem recovers_collection_iff {names : Names} :
    names.Recovers .collection ↔
      names.collection ≠ names.singleton ∧ names.collection ≠ names.singletonHash := by
  rw [recovers_iff]
  constructor
  · intro h
    exact ⟨h .singleton (by decide), h .singletonHash (by decide)⟩
  · rintro ⟨hone, hhash⟩ other hlt
    cases other with
    | singleton => exact hone
    | singletonHash => exact hhash
    | _ => exact absurd hlt (by decide)

theorem recovers_collectionHash_iff (hs : settings.hashSuffix ≠ "") :
    (derive settings factory).Recovers .collectionHash ↔
      (derive settings factory).collectionHash ≠ (derive settings factory).singleton ∧
        (derive settings factory).collectionHash ≠ (derive settings factory).singletonHash := by
  rw [recovers_iff]
  constructor
  · intro h
    exact ⟨h .singleton (by decide), h .singletonHash (by decide)⟩
  · rintro ⟨hone, hhash⟩ other hlt
    cases other with
    | singleton => exact hone
    | singletonHash => exact hhash
    -- The two forms of the collection differ by the suffix.
    | collection => exact fun he => hs (String.append_eq_left_iff.mp he)
    | collectionHash => exact absurd hlt (by decide)

theorem recovers_all_iff (hu : settings.hashSuffix = "_") (hp : settings.irregularPlurals = ∅) :
    (∀ form, (derive settings factory).Recovers form) ↔
      lastWord factory.toList ≠ [] ∧ ¬EndsInSingleS (lastWord factory.toList) := by
  have hs : settings.hashSuffix ≠ "" := hu ▸ by decide
  have hcollection : (derive settings factory).collection = plural ∅ factory :=
    congrArg (plural · factory) hp
  constructor
  · intro h
    have hne := (recovers_collection_iff.mp (h .collection)).1
    rw [hcollection] at hne
    exact not_or.mp fun hw => hne (plural_eq_self_iff.mpr hw)
  · rintro ⟨hw, hsingle⟩
    have hne : plural ∅ factory ≠ factory := fun he =>
      (plural_eq_self_iff.mp he).elim hw hsingle
    have hlast : lastWord (plural ∅ factory).toList ≠ [] := by
      rw [lastWord_plural hw]
      obtain ⟨before, s, he, -⟩ := endsInSingleS_regularPlural (lastWord factory.toList)
      rw [he]
      exact List.append_ne_nil_of_right_ne_nil _ (List.cons_ne_nil _ _)
    intro form
    cases form with
    | singleton => exact recovers_singleton _
    | singletonHash => exact recovers_singletonHash factory hs
    | collection =>
      rw [recovers_collection_iff, hcollection]
      refine ⟨hne, ?_⟩
      show plural ∅ factory ≠ factory ++ settings.hashSuffix
      rw [hu]
      exact ne_append_underscore hlast factory
    | collectionHash =>
      rw [recovers_collectionHash_iff factory hs]
      have hhash : (derive settings factory).collectionHash = plural ∅ factory ++ "_" := by
        rw [← hcollection, ← hu]
        rfl
      have hsingle' : (derive settings factory).singletonHash = factory ++ "_" :=
        congrArg (factory ++ ·) hu
      rw [hhash, hsingle']
      refine ⟨(ne_append_underscore hw _).symm, fun he => hne ?_⟩
      exact (String.append_left_inj _).mp he

/-- With a suffix, the singleton and its hash form are found by their names, a form of the
collection is found by its name unless that is one of theirs, and a name that no form has is not
found.  All settings that are read from a text have a suffix, however the text is read.  With the
suffix `_` and regular plurals, all forms are found by their names where the last word of the
factory's name is there and does not end in a single `s`, and only there. -/
theorem form?_get_derive (settings : Settings) (factory : String) (hs : settings.hashSuffix ≠ "") :
    ((derive settings factory).Recovers .singleton ∧
      (derive settings factory).Recovers .singletonHash ∧
      ∀ form, form.isCollection = true →
        ((derive settings factory).Recovers form ↔
          (derive settings factory).get form ≠ (derive settings factory).singleton ∧
          (derive settings factory).get form ≠ (derive settings factory).singletonHash)) ∧
    (∀ name, (derive settings factory).form? name = none ↔
      ∀ form, (derive settings factory).get form ≠ name) ∧
    (settings.hashSuffix = "_" → settings.irregularPlurals = ∅ →
      ((∀ form, (derive settings factory).Recovers form) ↔
        lastWord factory.toList ≠ [] ∧ ¬EndsInSingleS (lastWord factory.toList))) ∧
    ∀ (read : String → Option Settings) (text : String) accepted,
      Settings.ofText read text = .ok accepted → accepted.hashSuffix ≠ "" := by
  refine ⟨⟨recovers_singleton _, recovers_singletonHash factory hs, fun form hform => ?_⟩,
    fun name => form?_eq_none_iff, recovers_all_iff factory,
    fun read text accepted => Settings.hashSuffix_ne_empty_of_ofText⟩
  cases form with
  | singleton => cases hform
  | singletonHash => cases hform
  | collection => exact recovers_collection_iff
  | collectionHash => exact recovers_collectionHash_iff factory hs

/-- With `s` for a suffix, `users` is the hash form of a user and not the collection.  The usual
suffix keeps the four names of a category apart. -/
theorem form?_get_derive_of_users :
    let settings : Settings := { hashSuffix := "s" }
    settings.hashSuffix ≠ "" ∧ ¬(derive settings "user").Recovers .collection ∧
      (derive settings "user").Recovers .collectionHash ∧
      ({} : Settings).hashSuffix ≠ "" ∧ ∀ form, (derive {} "admin_category").Recovers form := by
  intro settings
  have hs : settings.hashSuffix ≠ "" := by decide
  have hd : ({} : Settings).hashSuffix ≠ "" := by decide
  refine ⟨hs, fun h => ?_, ?_, hd, ?_⟩
  · have hne := (((form?_get_derive settings "user" hs).1.2.2 .collection rfl).mp h).2
    exact hne (by decide)
  · exact ((form?_get_derive settings "user" hs).1.2.2 .collectionHash rfl).mpr (by decide)
  · exact ((form?_get_derive {} "admin_category" hd).2.2.1 rfl rfl).mpr (by decide)

end Names

end Fixtures
