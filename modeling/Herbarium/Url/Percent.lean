import Herbarium.Text.Digit
import Herbarium.Text.Utf8

/-!
Percent encoding.

A byte is written as a percent sign and two hexadecimal digits. Encoding takes the characters of a class and all beyond
ASCII; decoding takes every percent sign that two digits follow and leaves the others.
-/

namespace Herbarium.Url

/-- The hexadecimal digit of a value below sixteen, in upper case. -/
def hexDigit (n : Nat) : Char :=
  if n < 10 then Char.ofNat (48 + n) else Char.ofNat (55 + n)

def hexValue? (b : UInt8) : Option Nat := Text.hexValue? (Char.ofNat b.toNat)

/-- A byte as percent sign and digits. -/
def encodeByte (b : UInt8) : List Char :=
  ['%', hexDigit (b.toNat / 16), hexDigit (b.toNat % 16)]

/-- A character, encoded if it is in a class or beyond ASCII. -/
def encodeChar (inClass : Char → Bool) (c : Char) : List Char :=
  if inClass c || 127 ≤ c.toNat || c.toNat < 32 then (String.utf8EncodeChar c).flatMap encodeByte else [c]

/-- A text with the characters of a class encoded. -/
def encodeText (inClass : Char → Bool) (cs : List Char) : List Char := cs.flatMap (encodeChar inClass)

/-- Bytes with every encoded byte decoded. -/
def decodeBytes : List UInt8 → List UInt8
  | b :: h :: l :: rest =>
    match if b = 37 then hexValue? h else none, hexValue? l with
    | some high, some low => UInt8.ofNat (high * 16 + low) :: decodeBytes rest
    | _, _ => b :: decodeBytes (h :: l :: rest)
  | bytes => bytes

/-- The classes of the parts of an address. -/
def inFragment (c : Char) : Bool := [' ', '"', '<', '>', Char.ofNat 96].contains c

def inPath (c : Char) : Bool := inFragment c || ['#', '?', '{', '}'].contains c

def inUserinfo (c : Char) : Bool := inPath c || ['/', ':', ';', '=', '@', '[', '\\', ']', '^', '|'].contains c

/-- The class of the query of an address with a host. -/
def inQuery (c : Char) : Bool := [' ', '"', '#', '<', '>', Char.ofNat 39].contains c

end Herbarium.Url
