import Fixtures.Toml.Line

/-!
# TOML documents from lines

Putting the lines of a document together: a header opens a table, and the keys after it go into
that table. A table may be opened once, and a name means one thing only.
-/

namespace Fixtures.Toml

/-- Changes the table under a path. Tables on the way that are missing are made; an array of tables
stands for its last element. Inline tables and other items are closed. -/
def changeTable (change : Fields → Option Fields) : List String → Fields → Option Fields
  | [], fields => change fields
  | key :: path, fields =>
    match SortedMap.lookupEntry key fields with
    | none => (changeTable change path []).map fun inner =>
      setField key (.table .implied inner) fields
    | some (.table kind inner) =>
      if kind = .inline then none
      else (changeTable change path inner).map fun inner => setField key (.table kind inner) fields
    | some (.tables elements) =>
      match elements.getLast? with
      | none => none
      | some last => (changeTable change path last).map fun last =>
        setField key (.tables (elements.dropLast ++ [last])) fields
    | some _ => none

def openTable (key : String) (fields : Fields) : Option Fields :=
  match SortedMap.lookupEntry key fields with
  | none => some (setField key (.table .header []) fields)
  | some (.table .implied inner) => some (setField key (.table .header inner) fields)
  | some _ => none

def openElement (key : String) (fields : Fields) : Option Fields :=
  match SortedMap.lookupEntry key fields with
  | none => some (setField key (.tables [[]]) fields)
  | some (.tables elements) => some (setField key (.tables (elements ++ [[]])) fields)
  | some _ => none

/-- A document under construction. -/
structure Draft where
  fields : Fields := []
  -- The path of the table that keys go into.
  current : List String := []

def Draft.add (draft : Draft) : Line → Option Draft
  | .pair path item => do
    let fields ← changeTable (insertField true path item) draft.current draft.fields
    return { draft with fields }
  | .table path => do
    let fields ← changeTable (openTable (path.getLastD "")) path.dropLast draft.fields
    return { fields, current := path }
  | .element path => do
    let fields ← changeTable (openElement (path.getLastD "")) path.dropLast draft.fields
    return { fields, current := path }

/-- Drops the mark that may stand at the start of a file. -/
def skipMark : List Char → List Char
  | '\ufeff' :: text => text
  | text => text

def read (text : String) : Option Fields := do
  let draft ← (← lines (skipMark text.toList)).foldlM Draft.add {}
  return draft.fields

/-- The name of the field that a date has when it is seen as a table. -/
def datetimeField : String := "$__toml_private_datetime"

/-- The fields of an item that is a table. A date counts as one with its text as the only field. -/
def Item.fields? : Item → Option Fields
  | .table _ fields => some fields
  | .datetime moment => some [(datetimeField, .text moment)]
  | _ => none

end Fixtures.Toml
