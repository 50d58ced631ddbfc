import Fixtures.Data.Double
import Fixtures.Data.SortedMap

/-!
# Attribute values

A `Value` is what a field of a record can hold: nothing, a truth value, an integer, a finite
floating-point number, a text, a list of values, or an object with named values. An object lists
its fields by strictly increasing name.

Values are compared by `Value.same`, which is structural except that the two floating-point zeros
are the same number. An integer is never the same as a floating-point number.
-/

namespace Fixtures

/-- The value of a field. -/
inductive Value where
  | null
  | bool (b : Bool)
  | int (n : Int)
  | float (d : Double)
  | text (s : String)
  | list (items : List Value)
  | object (fields : List (String × Value))
  deriving Inhabited

/-- Named values, such as those of one record. -/
abbrev AttributeMap := SortedMap Value

namespace Value

/-! ## Structural equality -/

mutual

/-- Decides whether two values are equal, the two zeros being told apart. -/
def decEq : (a b : Value) → Decidable (a = b)
  | .null, .null => isTrue rfl
  | .bool a, .bool b => decidable_of_iff (a = b) (by simp)
  | .int a, .int b => decidable_of_iff (a = b) (by simp)
  | .float a, .float b => decidable_of_iff (a = b) (by simp)
  | .text a, .text b => decidable_of_iff (a = b) (by simp)
  | .list as, .list bs => @decidable_of_iff _ (as = bs) (by simp) (decEqItems as bs)
  | .object as, .object bs => @decidable_of_iff _ (as = bs) (by simp) (decEqFields as bs)
  | .null, .bool _ | .null, .int _ | .null, .float _ | .null, .text _ | .null, .list _
  | .null, .object _ | .bool _, .null | .bool _, .int _ | .bool _, .float _ | .bool _, .text _
  | .bool _, .list _ | .bool _, .object _ | .int _, .null | .int _, .bool _ | .int _, .float _
  | .int _, .text _ | .int _, .list _ | .int _, .object _ | .float _, .null | .float _, .bool _
  | .float _, .int _ | .float _, .text _ | .float _, .list _ | .float _, .object _
  | .text _, .null | .text _, .bool _ | .text _, .int _ | .text _, .float _ | .text _, .list _
  | .text _, .object _ | .list _, .null | .list _, .bool _ | .list _, .int _ | .list _, .float _
  | .list _, .text _ | .list _, .object _ | .object _, .null | .object _, .bool _
  | .object _, .int _ | .object _, .float _ | .object _, .text _ | .object _, .list _ =>
    isFalse (by simp)

def decEqItems : (as bs : List Value) → Decidable (as = bs)
  | [], [] => isTrue rfl
  | [], _ :: _ => isFalse (by simp)
  | _ :: _, [] => isFalse (by simp)
  | a :: as, b :: bs =>
    @decidable_of_iff _ (a = b ∧ as = bs) (by simp)
      (@instDecidableAnd _ _ (decEq a b) (decEqItems as bs))

def decEqFields : (as bs : List (String × Value)) → Decidable (as = bs)
  | [], [] => isTrue rfl
  | [], _ :: _ => isFalse (by simp)
  | _ :: _, [] => isFalse (by simp)
  | (k, a) :: as, (l, b) :: bs =>
    @decidable_of_iff _ (k = l ∧ a = b ∧ as = bs) (by simp [and_assoc])
      (@instDecidableAnd _ _ _ (@instDecidableAnd _ _ (decEq a b) (decEqFields as bs)))

end

instance : DecidableEq Value := decEq

/-! ## Sameness -/

mutual

/-- Whether two values are the same, floating-point numbers being compared as numbers. -/
def same : Value → Value → Bool
  | .null, .null => true
  | .bool a, .bool b => a == b
  | .int a, .int b => a == b
  | .float a, .float b => a.same b
  | .text a, .text b => a == b
  | .list as, .list bs => sameItems as bs
  | .object as, .object bs => sameFields as bs
  | _, _ => false

def sameItems : List Value → List Value → Bool
  | [], [] => true
  | a :: as, b :: bs => same a b && sameItems as bs
  | _, _ => false

def sameFields : List (String × Value) → List (String × Value) → Bool
  | [], [] => true
  | (k, a) :: as, (l, b) :: bs => k == l && same a b && sameFields as bs
  | _, _ => false

end

mutual

theorem same_refl : (a : Value) → a.same a
  | .null => rfl
  | .bool _ | .int _ | .text _ => by simp [same]
  | .float d => d.same_refl
  | .list as => sameItems_refl as
  | .object as => sameFields_refl as

theorem sameItems_refl : (as : List Value) → sameItems as as
  | [] => rfl
  | a :: as => by simp [sameItems, same_refl a, sameItems_refl as]

theorem sameFields_refl : (as : List (String × Value)) → sameFields as as
  | [] => rfl
  | (_, a) :: as => by simp [sameFields, same_refl a, sameFields_refl as]

end

mutual

theorem same_comm : (a b : Value) → a.same b = b.same a
  | .null, b | .bool _, b | .int _, b | .text _, b => by cases b <;> simp [same, Bool.beq_comm]
  | .float a, b => by
    cases b with
    | float b => exact Bool.eq_iff_iff.mpr ⟨Double.same_symm, Double.same_symm⟩
    | _ => simp [same]
  | .list as, b => by
    cases b with
    | list bs => exact sameItems_comm as bs
    | _ => simp [same]
  | .object as, b => by
    cases b with
    | object bs => exact sameFields_comm as bs
    | _ => simp [same]

theorem sameItems_comm : (as bs : List Value) → sameItems as bs = sameItems bs as
  | [], [] => rfl
  | [], _ :: _ | _ :: _, [] => rfl
  | a :: as, b :: bs => by simp [sameItems, same_comm a b, sameItems_comm as bs]

theorem sameFields_comm : (as bs : List (String × Value)) → sameFields as bs = sameFields bs as
  | [], [] => rfl
  | [], _ :: _ | _ :: _, [] => rfl
  | (k, a) :: as, (l, b) :: bs => by
    simp [sameFields, same_comm a b, sameFields_comm as bs, Bool.beq_comm (a := k)]

end

/-- Fields with the same values give the same values under one name. -/
theorem lookupEntry_of_sameFields {as bs : List (String × Value)} {k : String} {v : Value}
    (h : sameFields as bs = true) (hk : SortedMap.lookupEntry k as = some v) :
    ∃ w, SortedMap.lookupEntry k bs = some w ∧ v.same w = true := by
  induction as generalizing bs with
  | nil => cases hk
  | cons a as ih =>
    cases bs with
    | nil => cases h
    | cons b bs =>
      simp only [sameFields, Bool.and_eq_true, beq_iff_eq] at h
      unfold SortedMap.lookupEntry at hk ⊢
      rw [← h.1.1]
      split at hk
      · rename_i he
        cases hk
        exact ⟨b.2, if_pos he, h.1.2⟩
      · rename_i he
        rw [if_neg he]
        exact ih h.2 hk

/-! ## Views -/

/-- The value of an attribute map, seen as one value. -/
def ofAttributes (m : AttributeMap) : Value := .object m.entries

def isNull : Value → Bool
  | .null => true
  | _ => false

def asText? : Value → Option String
  | .text s => some s
  | _ => none

/-- The integer that the value is, if it is one that sixty-four signed bits hold. -/
def asInt? : Value → Option Int
  | .int n => if -Int.pow 2 63 ≤ n ∧ n < Int.pow 2 63 then some n else none
  | _ => none

end Value

/-- Whether two attribute maps have the same fields with the same values. -/
def SortedMap.sameValues (m n : AttributeMap) : Bool := Value.sameFields m.entries n.entries

theorem SortedMap.sameValues_refl (m : AttributeMap) : m.sameValues m :=
  Value.sameFields_refl m.entries

theorem SortedMap.get?_of_sameValues {m n : AttributeMap} {k : String} {v : Value}
    (h : m.sameValues n = true) (hk : m.get? k = some v) :
    ∃ w, n.get? k = some w ∧ v.same w = true :=
  Value.lookupEntry_of_sameFields h hk

end Fixtures
