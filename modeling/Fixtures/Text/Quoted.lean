import Fixtures.Text.Unprintable

/-!
# Quoted texts

A text in double quotes, for people to read: quotes, backslashes and the common controls get a
backslash, and what cannot be shown is given by its code point.
-/

namespace Fixtures.Text

/-- The code point of a character in hexadecimal, in braces after a backslash and a `u`. -/
def codePointEscape (c : Char) : List Char :=
  '\\' :: 'u' :: '\x7b' :: Nat.toDigits 16 c.toNat ++ ['\x7d']

def escape (c : Char) : List Char :=
  match c with
  | '\x00' => ['\\', '0']
  | '\t' => ['\\', 't']
  | '\r' => ['\\', 'r']
  | '\n' => ['\\', 'n']
  | '\\' => ['\\', '\\']
  | '\x22' => ['\\', '\x22']
  | c => if isUnprintable c then codePointEscape c else [c]

def quote (text : String) : String :=
  String.ofList ('\x22' :: text.toList.flatMap escape ++ ['\x22'])

end Fixtures.Text
