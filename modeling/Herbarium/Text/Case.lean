/-!
Upper case, as far as ASCII words can tell.

A word of ASCII letters is matched regardless of case by comparing upper-case forms. Apart from the letters
themselves, the only characters whose upper-case form consists of ASCII letters are the dotless i, the long and the
sharp s, and the Latin ligatures; `asciiUpper` knows exactly these. Every other character stands for itself, which
leaves its text different from any ASCII word, as its upper-case form would.
-/

namespace Herbarium.Text

/-- The upper-case form of a character where it consists of ASCII letters, else the character. -/
def asciiUpper (c : Char) : List Char :=
  if 'a' ≤ c ∧ c ≤ 'z' then [Char.ofNat (c.toNat - 32)]
  else match c.toNat with
    | 0xDF => ['S', 'S']
    | 0x131 => ['I']
    | 0x17F => ['S']
    | 0xFB00 => ['F', 'F']
    | 0xFB01 => ['F', 'I']
    | 0xFB02 => ['F', 'L']
    | 0xFB03 => ['F', 'F', 'I']
    | 0xFB04 => ['F', 'F', 'L']
    | 0xFB05 => ['S', 'T']
    | 0xFB06 => ['S', 'T']
    | _ => [c]

/-- The text to compare with a word of ASCII capitals. -/
def upperWord (s : String) : String :=
  String.ofList (s.toList.flatMap asciiUpper)

end Herbarium.Text
