import Fixtures.Data.SortedMap

/-!
# TOML documents

The items of a TOML document. A table remembers how it came to be, because that decides what may
still be added to it: a table that a header names is closed to dotted keys from elsewhere, one that
a header merely passes through lets them pass on to tables within, one that dotted keys have made is
open to them, and an inline table is closed for good.
-/

namespace Fixtures.Toml

/-- How a table came to be. -/
inductive TableKind where
  -- Named by a header of its own.
  | header
  -- Passed through by a header of a table within.
  | implied
  -- Passed through by a dotted key.
  | dotted
  -- Written in braces.
  | inline
  deriving DecidableEq

/-- What a key can stand for. -/
inductive Item where
  | text (text : String)
  | integer (value : Int)
  -- A floating-point number, as it is written.
  | float (literal : String)
  | boolean (value : Bool)
  -- A date, a time or both, in canonical notation.
  | datetime (text : String)
  -- A list in brackets.
  | array (items : List Item)
  | table (kind : TableKind) (fields : List (String × Item))
  -- The tables that headers in double brackets have opened under one name.
  | tables (elements : List (List (String × Item)))
  deriving Inhabited

/-- The fields of a table in the order of their appearance. -/
abbrev Fields := List (String × Item)

def isBlank (c : Char) : Bool := c = ' ' || c = '\t'

/-- The control characters other than tab, which no line may hold. -/
def isControl (c : Char) : Bool := (c.val < 0x20 && c != '\t') || c.val = 0x7f

def skipBlanks (text : List Char) : List Char := text.dropWhile isBlank

end Fixtures.Toml
