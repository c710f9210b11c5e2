import Herbarium.Decimal.Shortest
import Herbarium.Text.Printable

/-!
Quoted text.

A quoted text stands between quotes and shows every character that would not show by itself: the quote, the backslash,
line ends, tabs and the zero by a backslash and a letter, and other characters that are hidden or extend the one before
by their code point.
-/

namespace Herbarium.Text.Quoted

/-- A code point in lower-case hexadecimal digits. -/
def codePoint (n : Nat) : List Char :=
  ['\\', 'u', '\x7b'] ++ (Nat.toDigits 16 n ++ ['\x7d'])

/-- A character as it stands between quotes. -/
def escape (c : Char) : List Char :=
  if c = '"' then ['\\', '"']
  else if c = '\\' then ['\\', '\\']
  else if c = '\n' then ['\\', 'n']
  else if c = '\r' then ['\\', 'r']
  else if c = '\t' then ['\\', 't']
  else if c.toNat = 0 then ['\\', '0']
  else if Text.isHidden c || Text.isExtending c then codePoint c.toNat
  else [c]

/-- A text between quotes. -/
def write (s : String) : String :=
  String.ofList ('"' :: (s.toList.flatMap escape ++ ['"']))

end Herbarium.Text.Quoted
