import Fixtures.Toml.Datetime

/-!
# TOML lines

A document is a sequence of lines: a key with its item, the header of a table, or the header of an
element of an array of tables, between blank lines and comments. An item may itself run over
several lines. Inline tables are put together as they are read; the lines are put together by
`Toml.Document`.
-/

namespace Fixtures.Toml

/-! ## Tables from keys -/

def setField (key : String) (item : Item) : Fields → Fields
  | [] => [(key, item)]
  | (k, old) :: rest => if k = key then (k, item) :: rest else (k, old) :: setField key item rest

/-- Adds an item under a dotted key, whose last part must be new. The tables on the way are made, or
must be such that dotted keys may pass: made by dotted keys, passed through by headers only, or the
last ones of arrays of tables. The item itself may only come to stand in a table that takes items,
which of those on the way are the ones that dotted keys have made. -/
def insertField (takesItems : Bool) : List String → Item → Fields → Option Fields
  | [], _, _ => none
  | [key], item, fields =>
    match SortedMap.lookupEntry key fields with
    | some _ => none
    | none => if takesItems then some (setField key item fields) else none
  | key :: path, item, fields =>
    match SortedMap.lookupEntry key fields with
    | none => (insertField true path item []).map fun inner =>
      setField key (.table .dotted inner) fields
    | some (.table .dotted inner) => (insertField true path item inner).map fun inner =>
      setField key (.table .dotted inner) fields
    | some (.table .implied inner) => (insertField false path item inner).map fun inner =>
      setField key (.table .implied inner) fields
    | some (.tables elements) =>
      match elements.getLast? with
      | none => none
      | some last => (insertField false path item last).map fun last =>
        setField key (.tables (elements.dropLast ++ [last])) fields
    | some _ => none

def inlineTable (pairs : List (List String × Item)) : Option Item :=
  (pairs.foldlM (fun fields pair => insertField true pair.1 pair.2 fields) []).map (.table .inline)

/-! ## Items -/

def isWordChar (c : Char) : Bool :=
  c.isAlphanum || c = '_' || c = '-' || c = '+' || c = '.' || c = ':'

def wordItem? (word : List Char) : Option Item :=
  if word = ['t', 'r', 'u', 'e'] then some (.boolean true)
  else if word = ['f', 'a', 'l', 's', 'e'] then some (.boolean false)
  else
    match datetime? word with
    | some text => some (.datetime (String.ofList text))
    | none =>
      match integer? word with
      | some value => some (.integer value)
      | none => if isFloat word then some (.float (String.ofList word)) else none

/-- Reads an item that is a word. A date may have its time after a space. -/
def word (text : List Char) : Option (Item × List Char) :=
  let first := text.takeWhile isWordChar
  let rest := text.dropWhile isWordChar
  let (word, rest) :=
    match date first, rest with
    | some (_, []), ' ' :: d :: more =>
      if d.isDigit then
        (first ++ ' ' :: d :: more.takeWhile isWordChar, more.dropWhile isWordChar)
      else (first, rest)
    | _, _ => (first, rest)
  (wordItem? word).map (·, rest)

def skipComment : List Char → Option (List Char)
  | [] => some []
  | '\n' :: text => some ('\n' :: text)
  | '\r' :: '\n' :: text => some ('\r' :: '\n' :: text)
  | c :: text => if isControl c then none else skipComment text

/-- Drops blanks, line ends and comments. -/
def skipGap (inComment : Bool) : List Char → Option (List Char)
  | [] => some []
  | '\n' :: text | '\r' :: '\n' :: text => skipGap false text
  | c :: text =>
    if inComment then if isControl c then none else skipGap true text
    else if isBlank c then skipGap false text
    else if c = '#' then skipGap true text
    else some (c :: text)

mutual

/-- Reads an item whose brackets and braces go no deeper than `depth`. Every character costs two
steps at most, so `steps` only has to be large enough for the text. -/
def item : (steps depth : Nat) → List Char → Option (Item × List Char)
  | 0, _, _ => none
  | steps + 1, depth, text =>
    match text, depth with
    | '\x22' :: text, _ => (anyString basicQuote text).map fun (s, rest) => (.text s, rest)
    | '\x27' :: text, _ => (anyString literalQuote text).map fun (s, rest) => (.text s, rest)
    | '[' :: text, depth + 1 => do
      let (found, rest) ← items steps depth text
      return (.array found, rest)
    | '\x7b' :: text, depth + 1 => do
      let (found, rest) ← pairs steps depth text
      return (← inlineTable found, rest)
    | text, _ => word text

def items : (steps depth : Nat) → List Char → Option (List Item × List Char)
  | 0, _, _ => none
  | steps + 1, depth, text => do
    match ← skipGap false text with
    | ']' :: rest => return ([], rest)
    | text =>
      let (first, rest) ← item steps depth text
      match ← skipGap false rest with
      | ',' :: rest =>
        let (others, rest) ← items steps depth rest
        return (first :: others, rest)
      | ']' :: rest => return ([first], rest)
      | _ => none

def pairs : (steps depth : Nat) → List Char → Option (List (List String × Item) × List Char)
  | 0, _, _ => none
  | steps + 1, depth, text => do
    match ← skipGap false text with
    | '\x7d' :: rest => return ([], rest)
    | text =>
      let (path, rest) ← key text
      let ('=' :: rest) ← skipGap false rest | none
      let (found, rest) ← item steps depth (← skipGap false rest)
      match ← skipGap false rest with
      | ',' :: rest =>
        let (others, rest) ← pairs steps depth rest
        return ((path, found) :: others, rest)
      | '\x7d' :: rest => return ([(path, found)], rest)
      | _ => none

end

/-! ## Lines -/

/-- A line of a document. -/
inductive Line where
  | pair (path : List String) (item : Item)
  -- The header of a table.
  | table (path : List String)
  -- The header of an element of an array of tables.
  | element (path : List String)

/-- Reads the end of a line: blanks, perhaps a comment, and a line end or the end of the text. -/
def lineEnd (text : List Char) : Option (List Char) :=
  let tail : List Char → Option (List Char)
    | [] => some []
    | '\n' :: rest | '\r' :: '\n' :: rest => some rest
    | _ => none
  match skipBlanks text with
  | '#' :: text => (skipComment text).bind tail
  | text => tail text

/-- Reads the path of a header, and the brackets that close it. -/
def headerPath (closing text : List Char) : Option (List String × List Char) := do
  let (path, rest) ← key (skipBlanks text)
  let rest := skipBlanks rest
  if closing.isPrefixOf rest then some (path, rest.drop closing.length) else none

def line (text : List Char) : Option (Line × List Char) :=
  match text with
  | '[' :: '[' :: text => (headerPath [']', ']'] text).map fun (path, rest) => (.element path, rest)
  | '[' :: text => (headerPath [']'] text).map fun (path, rest) => (.table path, rest)
  | text => do
    let (path, rest) ← key text
    let ('=' :: rest) := skipBlanks rest | none
    let rest := skipBlanks rest
    let (found, rest) ← item (2 * rest.length + 2) depthLimit rest
    return (.pair path found, rest)

/-- Reads all lines of a text. Every step uses up a character at least. -/
def linesIn : (steps : Nat) → List Char → Option (List Line)
  | 0, _ => none
  | steps + 1, text => do
    match ← skipGap false text with
    | [] => return []
    | text =>
      let (first, rest) ← line text
      return first :: (← linesIn steps (← lineEnd rest))

def lines (text : List Char) : Option (List Line) := linesIn (text.length + 1) text

end Fixtures.Toml
