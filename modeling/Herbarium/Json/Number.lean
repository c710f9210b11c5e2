import Herbarium.Decimal.Reader

/-!
The value of a JSON number.

The digits are collected in an integer of 64 bits; those that no longer fit are counted before the point and dropped
behind it. The integer and the power of ten are then rounded each for itself, and so is their product or quotient, so
that a number of many digits may come out next to the nearest one. Powers of ten end at 10³⁰⁸: a smaller number is
divided by that power as often as it takes, and a larger one is out of range.
-/

namespace Herbarium.Json

/-- The bound on the integer that digits are collected in. -/
def significandLimit : Nat := 0x10000000000000000

/-- Adds digits as long as they fit, and gives those that do not. -/
def fill (n : Nat) : List Char → Nat × List Char
  | [] => (n, [])
  | c :: cs =>
    let next := 10 * n + (Decimal.digitValue? c).getD 0
    if next < significandLimit then fill next cs else (n, c :: cs)

/-- The decimal of the digits before and after a point. -/
def collect (whole fraction : List Char) : Decimal :=
  let (n, beyond) := fill 0 whole
  let (n, dropped) := fill n fraction
  { coefficient := n, exponent := beyond.length - ((fraction.length - dropped.length : Nat) : Int) }

def powerLimit : Nat := 308

def powerRank (k : Nat) : Nat :=
  Binary64.nearestRank (Nat.pow 10 k * Binary64.unitsPerOne) 1

def timesRank (a b : Nat) : Nat :=
  Binary64.nearestRank (Binary64.units a * Binary64.units b) Binary64.unitsPerOne

def perRank (a b : Nat) : Nat :=
  Binary64.nearestRank (Binary64.units a * Binary64.unitsPerOne) (Binary64.units b)

/-- Divides by the largest power until nothing is left. -/
def lower (rank : Nat) : Nat → Nat
  | 0 => rank
  | steps + 1 => if rank = 0 then 0 else lower (perRank rank (powerRank powerLimit)) steps

/-- The rank of an integer times a power of ten, unless it is out of range. -/
def scaledRank? (d : Decimal) : Option Nat :=
  let rank := Binary64.nearestRank (d.coefficient * Binary64.unitsPerOne) 1
  let k := d.exponent.natAbs
  if d.exponent < 0 then
    let steps := (k - 1) / powerLimit
    some (perRank (lower rank steps) (powerRank (k - powerLimit * steps)))
  else if k ≤ powerLimit then
    let scaled := timesRank rank (powerRank k)
    if scaled < Binary64.infinityRank then some scaled else none
  else if rank = 0 then some 0
  else none

end Herbarium.Json
