/-!
Blank characters and trimming.

`isBlank` is the Unicode property White_Space, all twenty-five characters of it. `trimMatches` takes a class of
characters off both ends of a text, and `trim` does so for the blank ones. Both keep the text between the first
and the last character outside the class as it stands.
-/

namespace Herbarium.Text

/-- The Unicode property White_Space. -/
def isBlank (c : Char) : Bool :=
  let n := c.toNat
  (0x9 ≤ n && n ≤ 0xD) || n == 0x20 || n == 0x85 || n == 0xA0 || n == 0x1680 || (0x2000 ≤ n && n ≤ 0x200A) ||
    n == 0x2028 || n == 0x2029 || n == 0x202F || n == 0x205F || n == 0x3000

/-- Takes the characters of a class off the end. -/
def trimEndMatches (p : Char → Bool) (cs : List Char) : List Char :=
  (cs.reverse.dropWhile p).reverse

/-- Takes the characters of a class off both ends. -/
def trimMatches (p : Char → Bool) (cs : List Char) : List Char :=
  trimEndMatches p (cs.dropWhile p)

def trimChars (cs : List Char) : List Char :=
  trimMatches isBlank cs

/-- Takes blank characters off both ends of a string. -/
def trim (s : String) : String :=
  String.ofList (trimChars s.toList)

def isBlankText (s : String) : Bool :=
  s.toList.all isBlank

/-- The lower-case form of an ASCII letter; any other character stands for itself. -/
def asciiLower (c : Char) : Char :=
  if 'A' ≤ c ∧ c ≤ 'Z' then Char.ofNat (c.toNat + 32) else c

/-- A text with its ASCII letters in lower case. -/
def asciiFold (s : String) : String :=
  String.ofList (s.toList.map asciiLower)

/-- Equality up to the case of ASCII letters. -/
def sameFolded (s t : String) : Bool :=
  asciiFold s == asciiFold t

end Herbarium.Text
