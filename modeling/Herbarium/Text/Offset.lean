/-!
Byte positions in a text.

A text is stored as UTF-8, and its slices are named by byte positions. A position cuts a text only where one character
ends and the next begins: `dropBytes?` and `takeBytes?` give the two sides of such a cut, and nothing where the
position lies inside a character or behind the text. `indices` pairs every character with the byte it starts at.
-/

namespace Herbarium.Text

/-- The length of a text in bytes. -/
def byteLength (cs : List Char) : Nat :=
  cs.foldl (fun n c => n + c.utf8Size) 0

/-- What stands from a byte on. -/
def dropBytes? : Nat → List Char → Option (List Char)
  | 0, cs => some cs
  | _ + 1, [] => none
  | n + 1, c :: cs => if c.utf8Size ≤ n + 1 then dropBytes? (n + 1 - c.utf8Size) cs else none

/-- What stands before a byte. -/
def takeBytes? : Nat → List Char → Option (List Char)
  | 0, _ => some []
  | _ + 1, [] => none
  | n + 1, c :: cs => if c.utf8Size ≤ n + 1 then (takeBytes? (n + 1 - c.utf8Size) cs).map (c :: ·) else none

/-- What stands from one byte up to another, given by its distance. -/
def slice? (start length : Nat) (cs : List Char) : Option (List Char) :=
  (dropBytes? start cs).bind (takeBytes? length)

/-- The characters of a text with the bytes they start at; the first starts at a given byte. -/
def indices (start : Nat) : List Char → List (Nat × Char)
  | [] => []
  | c :: cs => (start, c) :: indices (start + c.utf8Size) cs

end Herbarium.Text
