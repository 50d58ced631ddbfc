/-!
# Sequence templates

A template is a text in which the placeholder, the letter `n` in braces, stands for the sequence
index in decimal notation.
-/

namespace Fixtures.Template

/-- Puts `digits` in place of every placeholder, from left to right. -/
def fillChars (digits : List Char) : List Char → List Char
  | '\x7b' :: 'n' :: '\x7d' :: rest => digits ++ fillChars digits rest
  | c :: rest => c :: fillChars digits rest
  | [] => []

/-- The text of a template at an index. -/
def fill (template : String) (index : Nat) : String :=
  String.ofList (fillChars (Nat.toDigits 10 index) template.toList)

end Fixtures.Template
