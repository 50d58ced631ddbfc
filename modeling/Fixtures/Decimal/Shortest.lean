import Fixtures.Data.Double

/-!
# Shortest decimals

The shortest decimal that reads back as a given floating-point number, and of several such the one
nearest to it. A positive double is `m * 2 ^ q` for whole `m` and `q`; the reals that round to it
form an interval, whose ends belong to it if `m` is even. Of all decimals with a given number of
digits only the two neighbours of the number itself need to be tried.
-/

namespace Fixtures

/-- The decimal number `digits * 10 ^ exponent`. -/
structure Decimal where
  digits : Nat
  exponent : Int
  deriving DecidableEq

namespace Decimal

/-- A positive rational with the ends of the interval of those that round alike, as numerators over
a common denominator. -/
structure Interval where
  low : Nat
  mid : Nat
  high : Nat
  denominator : Nat
  -- Whether the ends belong to the interval.
  closed : Bool

/-- The interval of the reals that round to a double, signs aside. Below a power of two the doubles
lie twice as close as above it. -/
def Interval.ofDouble (d : Double) : Interval :=
  let e := d.exponentField
  let f := d.fractionField
  let m := if e = 0 then f else Nat.pow 2 52 + f
  let below := if f = 0 ∧ 1 < e then 1 else 2
  let up := Nat.pow 2 (max e 1 - 1077)
  { low := (4 * m - below) * up
    mid := 4 * m * up
    high := (4 * m + 2) * up
    denominator := Nat.pow 2 (1077 - max e 1)
    closed := m % 2 = 0 }

/-- Whether `digits * 10 ^ exponent` lies in an interval. -/
def Interval.contains (interval : Interval) (decimal : Decimal) : Bool :=
  let value := decimal.digits * Nat.pow 10 decimal.exponent.toNat * interval.denominator
  let scale := Nat.pow 10 (-decimal.exponent).toNat
  if interval.closed then interval.low * scale ≤ value && value ≤ interval.high * scale
  else interval.low * scale < value && value < interval.high * scale

/-- The greatest `e` such that ten to the power `e` is at most the number, above `-limit`. -/
def Interval.magnitude (interval : Interval) (limit : Nat) : Int :=
  if interval.denominator ≤ interval.mid then
    (Nat.toDigits 10 (interval.mid / interval.denominator)).length - 1
  else
    let small :=
      (List.range limit).find? fun k => interval.denominator ≤ interval.mid * Nat.pow 10 k
    Int.negOfNat (small.getD limit)

/-- The decimals on the grid of an exponent that are next to the number, the nearer one first; of
two equally near ones the one with an even last digit. -/
def Interval.neighbours (interval : Interval) (exponent : Int) : List Decimal :=
  let value := interval.mid * Nat.pow 10 (-exponent).toNat
  let step := interval.denominator * Nat.pow 10 exponent.toNat
  let lower := value / step
  let twice := 2 * (value % step)
  if twice < step ∨ (twice = step ∧ lower % 2 = 0) then
    [⟨lower, exponent⟩, ⟨lower + 1, exponent⟩]
  else [⟨lower + 1, exponent⟩, ⟨lower, exponent⟩]

/-- Drops zeros at the end of the digits, at most so many. -/
def strip : Nat → Decimal → Decimal
  | 0, decimal => decimal
  | n + 1, decimal =>
    if decimal.digits % 10 = 0 then strip n ⟨decimal.digits / 10, decimal.exponent + 1⟩
    else decimal

/-- The shortest decimal that reads back as the absolute value of a double, if that is not zero.
Seventeen digits are always enough. -/
def shortest (d : Double) : Decimal :=
  let interval := Interval.ofDouble d
  let magnitude := interval.magnitude 400
  let candidates := (List.range 17).flatMap fun n : Nat => interval.neighbours (magnitude - n)
  ((candidates.find? interval.contains).getD ⟨0, 0⟩).strip 17

/-! ## Layout -/

/-- Where positional notation begins and ends. -/
structure Layout where
  -- The greatest number of digits before the point.
  before : Int
  -- The greatest number of zeros right after a point that follows a single zero.
  after : Int

/-- Positional notation up to sixteen digits before the point and four zeros after it. -/
def Layout.standard : Layout := ⟨16, 4⟩

/-- The exponent of a decimal in scientific notation, always with a sign. -/
def renderExponent (exponent : Int) : List Char :=
  if exponent < 0 then '-' :: Nat.toDigits 10 exponent.natAbs
  else '+' :: Nat.toDigits 10 exponent.natAbs

/-- The text of a positive decimal: in positional notation with a digit on either side of the point
where the layout allows it, otherwise with one digit before the point and an exponent. -/
def render (layout : Layout) (decimal : Decimal) : List Char :=
  let digits := Nat.toDigits 10 decimal.digits
  let point := digits.length + decimal.exponent
  if 0 ≤ decimal.exponent ∧ point ≤ layout.before then
    digits ++ List.replicate decimal.exponent.toNat '0' ++ ['.', '0']
  else if 0 < point ∧ point ≤ layout.before then
    digits.take point.toNat ++ '.' :: digits.drop point.toNat
  else if -layout.after ≤ point ∧ point ≤ 0 then
    '0' :: '.' :: List.replicate (-point).toNat '0' ++ digits
  else
    let fraction := match digits.tail with
      | [] => []
      | rest => '.' :: rest
    digits.take 1 ++ fraction ++ 'e' :: renderExponent (point - 1)

/-- The text of a double. -/
def ofDouble (d : Double) : String :=
  let text := if d.isZero then ['0', '.', '0'] else render .standard (shortest d)
  String.ofList (if d.isNegative then '-' :: text else text)

end Decimal

end Fixtures
