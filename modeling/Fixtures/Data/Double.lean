/-!
# Finite double-precision numbers

A `Double` is a finite binary floating-point number of 64 bits, kept as its bits: one sign bit,
eleven exponent bits and fifty-two fraction bits. Two doubles stand for the same number if their
bits agree or both are zeros; since infinities and not-a-number are left out, this is an
equivalence.
-/

namespace Fixtures

/-- A finite floating-point number, given by its bits. -/
structure Double where
  bits : UInt64
  finite : bits >>> 52 &&& 0x7ff ≠ 0x7ff
  deriving DecidableEq

namespace Double

/-- The finite number with these bits, if they are those of one. -/
def ofBits? (bits : UInt64) : Option Double :=
  if h : bits >>> 52 &&& 0x7ff ≠ 0x7ff then some ⟨bits, h⟩ else none

/-- Whether the number is negative or the negative zero. -/
def isNegative (d : Double) : Bool := d.bits >>> 63 != 0

def exponentField (d : Double) : Nat := (d.bits >>> 52 &&& 0x7ff).toNat

def fractionField (d : Double) : Nat := (d.bits &&& 0xfffffffffffff).toNat

def isZero (d : Double) : Bool := d.bits <<< 1 == 0

/-- Whether two doubles stand for the same number: the two zeros do. -/
def same (a b : Double) : Bool := a.bits == b.bits || (a.isZero && b.isZero)

theorem same_refl (a : Double) : a.same a := by
  simp [same]

theorem same_symm {a b : Double} (h : a.same b) : b.same a := by
  simp only [same, Bool.or_eq_true, Bool.and_eq_true, beq_iff_eq] at h ⊢
  exact h.imp Eq.symm And.symm

end Double

end Fixtures
