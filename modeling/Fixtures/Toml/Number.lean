import Fixtures.Toml.Text

/-!
# TOML numbers

Integers are decimal with a sign or not, or hexadecimal, octal or binary; single underscores may
stand between digits. Floating-point numbers need a fraction or an exponent, and must not be too
large for sixty-four bits.
-/

namespace Fixtures.Toml

/-- The digits of a number without the underscores between them. -/
def digits? (isDigit : Char → Bool) : List Char → Option (List Char)
  | [] => none
  | [d] => if isDigit d then some [d] else none
  | d :: '_' :: rest => if isDigit d then (digits? isDigit rest).map (d :: ·) else none
  | d :: rest => if isDigit d then (digits? isDigit rest).map (d :: ·) else none

/-- The number that digits stand for in a base. -/
def ofDigits (base : Nat) (digits : List Char) : Nat :=
  digits.foldl (fun n c => base * n + (hexDigit? c).getD 0) 0

/-- The decimal digits of a whole number, which do not start with a needless zero. -/
def wholeDigits? (text : List Char) : Option (List Char) :=
  match digits? Char.isDigit text with
  | some ('0' :: _ :: _) => none
  | digits => digits

def sign : List Char → Bool × List Char
  | '-' :: text => (true, text)
  | '+' :: text => (false, text)
  | text => (false, text)

def isDigitOf (base : Nat) (c : Char) : Bool := (hexDigit? c).any (· < base)

/-- Admits the integers that a signed or an unsigned word of 128 bits holds. -/
def admitInteger (value : Int) : Option Int :=
  if -Int.pow 2 127 ≤ value ∧ value < Int.pow 2 128 then some value else none

def inBase (base : Nat) (text : List Char) : Option Int :=
  (digits? (isDigitOf base) text).bind fun digits => admitInteger (ofDigits base digits)

def integer? : List Char → Option Int
  | '0' :: 'x' :: text => inBase 16 text
  | '0' :: 'o' :: text => inBase 8 text
  | '0' :: 'b' :: text => inBase 2 text
  | word => do
    let (negative, text) := sign word
    let value := ofDigits 10 (← wholeDigits? text)
    admitInteger (if negative then -value else value)

/-- Whether `mantissa` times ten to the power `exponent` rounds to infinity. Numbers of clearly
fewer or more digits than the largest finite one, which has 309, are decided by that count. -/
def overflows (mantissa : Nat) (exponent : Int) : Bool :=
  let length := (Nat.toDigits 10 mantissa).length + exponent
  if mantissa = 0 ∨ length < 300 then false
  else if 320 < length then true
  else
    let bound := Nat.pow 2 1024 - Nat.pow 2 970
    bound * Nat.pow 10 (-exponent).toNat ≤ mantissa * Nat.pow 10 exponent.toNat

def exponent? (text : List Char) : Option Int := do
  let (negative, text) := sign text
  let value := ofDigits 10 (← digits? Char.isDigit text)
  return if negative then -value else value

/-- The digits after the point, and the exponent, of a floating-point number. -/
def fraction? : List Char → Option (List Char × Int)
  | '.' :: text => do
    let isPart := fun c : Char => c.isDigit || c = '_'
    let digits ← digits? Char.isDigit (text.takeWhile isPart)
    match text.dropWhile isPart with
    | [] => return (digits, 0)
    | c :: rest => if c = 'e' ∨ c = 'E' then return (digits, ← exponent? rest) else none
  | c :: rest => if c = 'e' ∨ c = 'E' then (exponent? rest).map ([], ·) else none
  | [] => none

def isFloat (word : List Char) : Bool :=
  let text := (sign word).2
  if text = ['i', 'n', 'f'] ∨ text = ['n', 'a', 'n'] then true
  else
    let isPart := fun c : Char => c.isDigit || c = '_'
    match wholeDigits? (text.takeWhile isPart), fraction? (text.dropWhile isPart) with
    | some whole, some (digits, exponent) =>
      !overflows (ofDigits 10 (whole ++ digits)) (exponent - digits.length)
    | _, _ => false

end Fixtures.Toml
