import Fixtures.Toml.Item

/-!
# TOML strings and keys

Basic strings stand in double quotes and know escapes, literal strings stand in single quotes and
know none; either also comes with three quotes on each side and may then run over several lines. A
string is first cut out of the text up to its closing quotes, and its escapes are resolved second.
-/

namespace Fixtures.Toml

def basicQuote : Char := '\x22'

def literalQuote : Char := '\x27'

def hexDigit? (c : Char) : Option Nat :=
  if c.isDigit then some (c.toNat - '0'.toNat)
  else if 'a' ≤ c ∧ c ≤ 'f' then some (c.toNat - 'a'.toNat + 10)
  else if 'A' ≤ c ∧ c ≤ 'F' then some (c.toNat - 'A'.toNat + 10)
  else none

/-- The character whose code point is written in hexadecimal. Surrogates are none. -/
def codePoint? (digits : List Char) : Option Char := do
  let code ← digits.foldlM (fun code c => (hexDigit? c).map (16 * code + ·)) 0
  if code.isValidChar then some (Char.ofNat code) else none

/-- The character that an escape of one letter stands for. -/
def simpleEscape? : Char → Option Char
  | 'b' => some '\x08'
  | 't' => some '\t'
  | 'n' => some '\n'
  | 'f' => some '\x0c'
  | 'r' => some '\r'
  | '\x22' => some '\x22'
  | 'e' => some '\x1b'
  | '\\' => some '\\'
  | _ => none

/-- Whether nothing but spaces and tabs stands before the end of the line. -/
def atLineEnd (text : List Char) : Bool :=
  match skipBlanks text with
  | '\n' :: _ | '\r' :: '\n' :: _ => true
  | _ => false

/-- Resolves the escapes in the content of a basic string. A backslash at the end of a line removes
all blanks and line ends that follow it, which `trimming` says to do. -/
def unescape (trimming : Bool) : List Char → Option (List Char)
  | [] => some []
  | c :: rest =>
    if trimming && (isBlank c || c = '\n' || c = '\r') then unescape true rest
    else if c ≠ '\\' then (unescape false rest).map (c :: ·)
    else if atLineEnd rest then unescape true rest
    else
      match rest with
      | 'x' :: a :: b :: rest => do
        let char ← codePoint? [a, b]
        return char :: (← unescape false rest)
      | 'u' :: a :: b :: c :: d :: rest => do
        let char ← codePoint? [a, b, c, d]
        return char :: (← unescape false rest)
      | 'U' :: a :: b :: c :: d :: e :: f :: g :: h :: rest => do
        let char ← codePoint? [a, b, c, d, e, f, g, h]
        return char :: (← unescape false rest)
      | c :: rest => do
        let char ← simpleEscape? c
        return char :: (← unescape false rest)
      | [] => none

/-- Cuts out the content of a string of one line, which ends at the next closing quote. -/
def cutLine (quote : Char) : List Char → Option (List Char × List Char)
  | [] => none
  | c :: rest =>
    if c = quote then some ([], rest)
    else if isControl c then none
    else if c = '\\' ∧ quote = basicQuote then
      match rest with
      | d :: rest =>
        if isControl d then none
        else (cutLine quote rest).map fun (content, rest) => (c :: d :: content, rest)
      | [] => none
    else (cutLine quote rest).map fun (content, rest) => (c :: content, rest)

def runLength (c : Char) (text : List Char) : Nat := (text.takeWhile (· == c)).length

/-- Cuts out the content of a string of several lines. It ends at three closing quotes; one or two
more quotes before these belong to the content. -/
def cutLines (quote : Char) : List Char → Option (List Char × List Char)
  | [] => none
  | c :: rest =>
    if c = quote ∧ 2 ≤ runLength quote rest then
      let extra := min 2 (runLength quote rest - 2)
      some (List.replicate extra quote, rest.drop (2 + extra))
    else if c = '\r' ∧ rest.head? ≠ some '\n' then none
    else if isControl c ∧ c ≠ '\n' ∧ c ≠ '\r' then none
    else if c = '\\' ∧ quote = basicQuote then
      match rest with
      | d :: rest => (cutLines quote rest).map fun (content, rest) => (c :: d :: content, rest)
      | [] => none
    else (cutLines quote rest).map fun (content, rest) => (c :: content, rest)

/-- Drops the line end right after the opening quotes of a string of several lines. -/
def dropFirstLineEnd : List Char → List Char
  | '\n' :: text | '\r' :: '\n' :: text => text
  | text => text

def contentText (quote : Char) (content : List Char) : Option String :=
  if quote = basicQuote then (unescape false content).map String.ofList
  else some (String.ofList content)

def lineString (quote : Char) (text : List Char) : Option (String × List Char) := do
  let (content, rest) ← cutLine quote text
  return (← contentText quote content, rest)

/-- Reads a string of either sort after its first quote. -/
def anyString (quote : Char) (text : List Char) : Option (String × List Char) :=
  if 2 ≤ runLength quote text then do
    let (content, rest) ← cutLines quote (dropFirstLineEnd (text.drop 2))
    return (← contentText quote content, rest)
  else lineString quote text

def isBare (c : Char) : Bool := c.isAlphanum || c = '_' || c = '-'

/-- Reads one part of a key. -/
def keyPart : List Char → Option (String × List Char)
  | '\x22' :: text => lineString basicQuote text
  | '\x27' :: text => lineString literalQuote text
  | text =>
    let word := text.takeWhile isBare
    if word.isEmpty then none else some (String.ofList word, text.dropWhile isBare)

/-- Reads a key of at most so many parts, with dots between them. -/
def keyPath : Nat → List Char → Option (List String × List Char)
  | 0, _ => none
  | parts + 1, text => do
    let (part, rest) ← keyPart text
    match skipBlanks rest with
    | '.' :: rest =>
      let (path, rest) ← keyPath parts (skipBlanks rest)
      return (part :: path, rest)
    | _ => return ([part], rest)

/-- Brackets and braces nest no deeper than this, and keys have no more parts. -/
def depthLimit : Nat := 80

def key (text : List Char) : Option (List String × List Char) := keyPath depthLimit text

end Fixtures.Toml
