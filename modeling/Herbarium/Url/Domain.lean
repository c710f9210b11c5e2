import Herbarium.Text.Blank
import Herbarium.Text.Utf8
import Herbarium.Url.NameTable
import Herbarium.Url.Punycode

/-!
Domain names in ASCII.

A domain is mapped character by character: letters to lower case, wide and compatibility forms to plain ones, the other
full stops to a full stop, and a few invisible characters to nothing. A label that still has characters beyond ASCII is
then written in Punycode. A domain is refused if a character of it can be in none, if a label starts with a character
that extends another, or if a label claims to be Punycode and is not.
-/

namespace Herbarium.Url

/-- Whether an ASCII character can be in no domain. -/
def isForbiddenInDomain (c : Char) : Bool :=
  c.toNat ≤ 32 || c.toNat == 127 || ['#', '%', '/', ':', '<', '>', '?', '@', '[', '\\', ']', '^', '|'].contains c

/-- What a name has for a character, or nothing if it can be in none. -/
def mapChar (c : Char) : Option (List Char) :=
  let n := c.toNat
  if n < 128 then some [Text.asciiLower c]
  else match inRuns? n, expansions.find? fun e => e.1 == n with
    | some m, _ => some [Char.ofNat m]
    | none, some e => some e.2.toList
    | none, none =>
      if ignoredRanges.holds n then some []
      else if Text.isHidden c || refusedRanges.holds n then none
      else some [c]

def isAscii (c : Char) : Bool := c.toNat < 128

/-- Whether characters beyond ASCII may make a label. -/
def isValidLabel (cs : List Char) : Bool :=
  (match cs with
    | c :: _ => !Text.isExtending c
    | [] => true) &&
  cs.all fun c => mapChar c == some [c] && !(isAscii c && isForbiddenInDomain c)

def punycodeMark : List Char := ['x', 'n', '-', '-']

/-- A mapped label in ASCII. A label with the mark must be Punycode of a label that has more than ASCII. -/
def asciiLabel? (cs : List Char) : Option (List Char) :=
  if punycodeMark.isPrefixOf cs then
    match if cs.all isAscii then Punycode.decode (cs.drop 4) else none with
    | some label => if isValidLabel label && !label.all isAscii then some cs else none
    | none => none
  else if cs.all isAscii then some cs
  else if isValidLabel cs then some (punycodeMark ++ Punycode.encode cs) else none

def asciiDomain? (cs : List Char) : Option (List Char) := do
  let mapped ← cs.mapM mapChar
  let labels ← (mapped.flatten.splitOn '.').mapM asciiLabel?
  let domain := List.intercalate ['.'] labels
  if domain.any isForbiddenInDomain then none else some domain

end Herbarium.Url
