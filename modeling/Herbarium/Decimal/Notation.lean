import Herbarium.Decimal.Shortest

/-!
Layouts of decimal numbers.

A `Layout` says which numbers are written positionally and how the fraction and the exponent look; `write` applies
it. All layouts share the rest: a minus sign for a negative number, digits, a point, and an exponent that always
carries its sign.
-/

namespace Herbarium.Decimal

/-- How a decimal is written. The `point` of a number is the count of digits before the decimal point, zero or
negative when zeros follow the point first. -/
structure Layout where
  /-- The points written positionally. -/
  positional : Int → Bool
  /-- Whether a whole number gets `.0`. -/
  wholeFraction : Bool
  /-- Whether a single digit before an exponent gets `.0`. -/
  exponentFraction : Bool
  /-- The least number of digits of an exponent. -/
  exponentWidth : Nat

def zeros (n : Nat) : List Char := List.replicate n '0'

/-- Digits with a point after the first `point` of them, filled up with zeros. -/
def positionalText (wholeFraction : Bool) (ds : List Char) (point : Int) : List Char :=
  if point ≤ 0 then '0' :: '.' :: (zeros point.natAbs ++ ds)
  else if point < ds.length then ds.take point.natAbs ++ '.' :: ds.drop point.natAbs
  else ds ++ zeros (point.natAbs - ds.length) ++ if wholeFraction then ['.', '0'] else []

/-- An exponent with its sign, filled up to a width. -/
def exponentText (width : Nat) (e : Int) : List Char :=
  let ds := digits e.natAbs
  'e' :: (if e < 0 then '-' else '+') :: (zeros (width - ds.length) ++ ds)

/-- One digit, the others after a point, and the exponent. -/
def exponentialText (l : Layout) (ds : List Char) (point : Int) : List Char :=
  let fraction := match ds.tail with
    | [] => if l.exponentFraction then ['.', '0'] else []
    | rest => '.' :: rest
  ds.take 1 ++ fraction ++ exponentText l.exponentWidth (point - 1)

/-- The text of a decimal, without a sign. Zero is written as a single digit. -/
def writeUnsigned (l : Layout) (d : Decimal) : List Char :=
  let ds := digits d.coefficient
  if d.coefficient = 0 then positionalText l.wholeFraction ds 1
  else
    let point := (ds.length : Int) + d.exponent
    if l.positional point then positionalText l.wholeFraction ds point else exponentialText l ds point

def write (l : Layout) (negative : Bool) (d : Decimal) : String :=
  String.ofList (if negative then '-' :: writeUnsigned l d else writeUnsigned l d)

/-- Positional digits only, and whole numbers without a fraction. -/
def Layout.plain : Layout :=
  { positional := fun _ => true, wholeFraction := false, exponentFraction := false, exponentWidth := 1 }

end Herbarium.Decimal

namespace Herbarium.Binary64

/-- The plain text of a number: the fewest digits that read back, the farther from zero of two equally near ones, never
an exponent, and no fraction for a whole number. -/
def plainText (x : Binary64) : String :=
  if x.isNaN then "NaN"
  else if x.isInfinite then if x.negative then "-inf" else "inf"
  else Decimal.write .plain x.negative (Decimal.shortest .away x.rank)

end Herbarium.Binary64
