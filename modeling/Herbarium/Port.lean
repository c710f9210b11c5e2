import Herbarium.Decimal.Reader

/-!
Port numbers.

A port is a 16-bit number. In text it stands in decimal, with zeros at its front or without; `read?` takes a plus sign
before it, and `readSigned?` any sign that leaves a port.
-/

namespace Herbarium

abbrev Port := UInt16

namespace Port

def ofInt? (n : Int) : Option Port :=
  if 0 ≤ n ∧ n < 65536 then some (UInt16.ofNat n.toNat) else none

/-- Reads a whole number of a sign and digits that take up the whole text. -/
def readInt? (cs : List Char) : Option Int :=
  let (negative, ds) := Decimal.spanSign cs
  match Decimal.spanDigits ds with
  | ([], _) => none
  | (ds, []) => some (if negative then -(Decimal.valueOfDigits ds : Int) else Decimal.valueOfDigits ds)
  | _ => none

/-- Reads a port in a text that may have a sign. -/
def readSigned? (s : String) : Option Port :=
  (readInt? s.toList).bind ofInt?

/-- Reads a port in a text without a minus sign. -/
def read? (s : String) : Option Port :=
  if s.toList.head? = some '-' then none else readSigned? s

def text (p : Port) : String := Decimal.integerText p.toNat

end Port

end Herbarium
