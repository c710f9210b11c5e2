import Herbarium.Decimal.Notation
import Herbarium.Json.Basic

/-!
Compact JSON text.

No blanks are written. A string escapes the quote, the backslash and the control characters, and nothing else. A real
number always shows a fraction or an exponent, so that it reads back as one; a number JSON cannot write is `null`.
-/

namespace Herbarium.Json

/-- Real numbers: fewest digits, positional from 10⁻⁵ up to 10¹⁶, whole numbers with `.0`. -/
def numberLayout : Decimal.Layout :=
  { positional := fun point => -5 < point && point ≤ 16, wholeFraction := true, exponentFraction := false,
    exponentWidth := 1 }

/-- The text of a real number, of two equally near ones the even. -/
def realText (x : Binary64) : String :=
  if x.isFinite then Decimal.write numberLayout x.negative (Decimal.shortest .even x.rank) else "null"

/-- The hexadecimal digit of a value below sixteen, in lower case. -/
def hexDigit (n : Nat) : Char :=
  if n < 10 then Char.ofNat (48 + n) else Char.ofNat (87 + n)

/-- A character within a string. -/
def escapeChar (c : Char) : List Char :=
  if c = '"' then ['\\', '"']
  else if c = '\\' then ['\\', '\\']
  else if c = '\n' then ['\\', 'n']
  else if c = '\r' then ['\\', 'r']
  else if c = '\t' then ['\\', 't']
  else if c.toNat = 8 then ['\\', 'b']
  else if c.toNat = 12 then ['\\', 'f']
  else if c.toNat < 32 then ['\\', 'u', '0', '0', hexDigit (c.toNat / 16), hexDigit (c.toNat % 16)]
  else [c]

def stringChars (s : String) : List Char :=
  '"' :: (s.toList.flatMap escapeChar ++ ['"'])

/-- The characters of several texts with commas between them. -/
def joinCommas (texts : List (List Char)) : List Char :=
  List.intercalate [','] texts

mutual

def chars : Json → List Char
  | null => "null".toList
  | bool true => "true".toList
  | bool false => "false".toList
  | integer n => (Decimal.integerText n).toList
  | real x => (realText x).toList
  | string s => stringChars s
  | array elements => '[' :: (joinCommas (elementChars elements) ++ [']'])
  | object members => '{' :: (joinCommas (memberChars members) ++ ['}'])

def elementChars : List Json → List (List Char)
  | [] => []
  | v :: rest => chars v :: elementChars rest

def memberChars : List (String × Json) → List (List Char)
  | [] => []
  | (key, v) :: rest => (stringChars key ++ ':' :: chars v) :: memberChars rest

end

/-- The compact text of a value. -/
def render (j : Json) : String := String.ofList j.chars

end Herbarium.Json
