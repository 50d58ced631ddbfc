import Fixtures.Data.SortedMap

/-!
# English plurals of identifiers

The plural of an identifier is the plural of the word after its last underscore, with everything
before left as it is. A table of irregular plurals goes first: it may name the whole identifier or
that last word. The regular rules look at the ending of the word without regard to the case of
ASCII letters, and an ending that they add is in lower case.
-/

namespace Fixtures

/-- The endings that the regular rules tell apart. -/
inductive Ending where
  -- A hiss, as in `glass`, `box`, `quiz`, `match` or `dish`: the plural adds a syllable.
  | hiss
  -- The letter `y` after anything but a vowel.
  | consonantY
  -- A single `s`: the word counts as a plural.
  | plural
  | plain
  deriving DecidableEq

def isVowel (c : Char) : Bool :=
  c = 'a' || c = 'e' || c = 'i' || c = 'o' || c = 'u'

/-- The ending of a lower-case word that is spelled backwards. -/
def Ending.ofReversed : List Char → Ending
  | 's' :: 's' :: _ | 'x' :: _ | 'z' :: _ | 'h' :: 'c' :: _ | 'h' :: 's' :: _ => .hiss
  | 'y' :: c :: _ => if isVowel c then .plain else .consonantY
  | ['y'] => .consonantY
  | 's' :: _ => .plural
  | _ => .plain

/-- The ending of a word, without regard to the case of ASCII letters. -/
def Ending.of (word : List Char) : Ending :=
  ofReversed (word.map Char.toLower).reverse

def regularPlural (word : List Char) : List Char :=
  match Ending.of word with
  | .hiss => word ++ ['e', 's']
  | .consonantY => word.dropLast ++ ['i', 'e', 's']
  | .plural => word
  | .plain => word ++ ['s']

def lastWord (name : List Char) : List Char :=
  (name.reverse.takeWhile (· != '_')).reverse

/-- An identifier up to and with its last underscore. -/
def beforeLastWord (name : List Char) : List Char :=
  (name.reverse.dropWhile (· != '_')).reverse

theorem beforeLastWord_append_lastWord (name : List Char) :
    beforeLastWord name ++ lastWord name = name := by
  rw [beforeLastWord, lastWord, ← List.reverse_append, List.takeWhile_append_dropWhile,
    List.reverse_reverse]

/-- The plural of an identifier under a table of irregular plurals. -/
def plural (irregular : SortedMap String) (name : String) : String :=
  match irregular.get? name with
  | some found => found
  | none =>
    let stem := String.ofList (beforeLastWord name.toList)
    let word := lastWord name.toList
    match irregular.get? (String.ofList word) with
    | some found => stem ++ found
    | none => if word.isEmpty then name else stem ++ String.ofList (regularPlural word)

end Fixtures
