import Fixtures.Toml.Number

/-!
# TOML dates and times

A date, a time of day, or a date with a time and perhaps an offset from universal time. The
canonical notation has a capital `T` between date and time, the seconds even if they were left out,
at most nine decimals of a second without zeros at the end, and a capital `Z` where that is how the
offset is written.
-/

namespace Fixtures.Toml

def twoDigits : List Char → Option (Nat × List Char)
  | a :: b :: rest => if a.isDigit && b.isDigit then some (ofDigits 10 [a, b], rest) else none
  | _ => none

def daysIn (year month : Nat) : Nat :=
  if month = 2 then
    if year % 4 = 0 ∧ (year % 100 ≠ 0 ∨ year % 400 = 0) then 29 else 28
  else if month = 4 ∨ month = 6 ∨ month = 9 ∨ month = 11 then 30
  else 31

/-- Reads a date, and answers its text. -/
def date : List Char → Option (List Char × List Char)
  | text => do
    let (century, rest) ← twoDigits text
    let (year, rest) ← twoDigits rest
    let ('-' :: rest) := rest | none
    let (month, rest) ← twoDigits rest
    let ('-' :: rest) := rest | none
    let (day, rest) ← twoDigits rest
    if 1 ≤ month ∧ month ≤ 12 ∧ 1 ≤ day ∧ day ≤ daysIn (100 * century + year) month then
      some (text.take 10, rest)
    else none

/-- The decimals of a second in canonical notation, with the point before them. -/
def canonicalDecimals (digits : List Char) : List Char :=
  let kept := ((digits.take 9).reverse.dropWhile (· == '0')).reverse
  if kept.isEmpty then [] else '.' :: kept

/-- Reads the seconds of a time after their colon, and answers their canonical text with the colon.
There may be a leap second. -/
def seconds : List Char → Option (List Char × List Char)
  | text => do
    let (second, rest) ← twoDigits text
    if 60 < second then none
    else
      match rest with
      | '.' :: rest =>
        let digits := rest.takeWhile Char.isDigit
        if digits.isEmpty then none
        else some (':' :: text.take 2 ++ canonicalDecimals digits, rest.dropWhile Char.isDigit)
      | rest => some (':' :: text.take 2, rest)

/-- Reads a time of day, whose seconds may be left out, and answers its canonical text. -/
def time : List Char → Option (List Char × List Char)
  | text => do
    let (hour, rest) ← twoDigits text
    let (':' :: rest) := rest | none
    let (minute, rest) ← twoDigits rest
    if 23 < hour ∨ 59 < minute then none
    else
      match rest with
      | ':' :: rest =>
        let (seconds, rest) ← seconds rest
        return (text.take 5 ++ seconds, rest)
      | rest => return (text.take 5 ++ [':', '0', '0'], rest)

/-- The canonical text of an offset from universal time, if the whole text is one. -/
def offset? : List Char → Option (List Char)
  | ['Z'] | ['z'] => some ['Z']
  | text => do
    let (mark :: rest) := text | none
    let (hours, rest) ← twoDigits rest
    let (':' :: rest) := rest | none
    let (minutes, rest) ← twoDigits rest
    if (mark = '+' ∨ mark = '-') ∧ hours ≤ 23 ∧ minutes ≤ 59 ∧ rest.isEmpty then
      some ((if hours = 0 ∧ minutes = 0 then '+' else mark) :: text.tail)
    else none

/-- The canonical text of a date, a time or both, if the whole word is one. -/
def datetime? (word : List Char) : Option (List Char) :=
  match date word with
  | none =>
    match time word with
    | some (text, []) => some text
    | _ => none
  | some (day, []) => some day
  | some (day, separator :: rest) =>
    if separator = 'T' ∨ separator = 't' ∨ separator = ' ' then
      match time rest with
      | none => none
      | some (clock, []) => some (day ++ 'T' :: clock)
      | some (clock, rest) => (offset? rest).map fun offset => day ++ 'T' :: clock ++ offset
    else none

end Fixtures.Toml
