import Herbarium.Binary64.Basic

/-!
Decimal numbers and the shortest decimal text of a binary one.

A `Decimal` is a coefficient times a power of ten. `shortest` finds, for a finite rank, the decimal of fewest digits
that lies in the interval of numbers rounding to that rank (its ends belong to it when the rank is even), and of two
such decimals the nearer one. It tries one digit, then two, and so on; on each grid only the two neighbours of the
number can be nearest, so no other candidate is tested. Where both are equally near, a `Tie` decides.
-/

namespace Herbarium

/-- The number coefficient · 10^exponent. -/
structure Decimal where
  coefficient : Nat
  exponent : Int
  deriving DecidableEq

namespace Decimal

/-- Which of two equally near neighbours is taken: the one farther from zero, or the even one. -/
inductive Tie where
  | away
  | even
  deriving DecidableEq

/-- The neighbour taken of `n` and `n + 1`. -/
def Tie.pick : Tie → Nat → Nat
  | away, n => n + 1
  | even, n => if n % 2 = 0 then n else n + 1

def digitValue? (c : Char) : Option Nat :=
  if '0' ≤ c ∧ c ≤ '9' then some (c.toNat - 48) else none

/-- The decimal digits of a natural number, most significant first. -/
def digits (n : Nat) : List Char :=
  Nat.toDigits 10 n

/-- The natural number a list of digits writes; other characters count as zero. -/
def valueOfDigits (ds : List Char) : Nat :=
  ds.foldl (fun n c => 10 * n + (digitValue? c).getD 0) 0

/-- An integer in decimal, with a minus sign if negative. -/
def integerText (n : Int) : String :=
  String.ofList (if n < 0 then '-' :: digits n.natAbs else digits n.natAbs)

/-- Moves the zeros at the end of a coefficient into the exponent. -/
def stripZeros (fuel : Nat) (d : Decimal) : Decimal :=
  match fuel with
  | 0 => d
  | fuel + 1 =>
    if d.coefficient ≠ 0 ∧ d.coefficient % 10 = 0 then
      stripZeros fuel { coefficient := d.coefficient / 10, exponent := d.exponent + 1 }
    else d

/-- The least power of ten, counted from `k` up, whose product with `num` reaches `den`. -/
def climb (num den : Nat) : Nat → Nat → Nat
  | 0, k => k
  | fuel + 1, k => if den ≤ num * Nat.pow 10 k then k else climb num den fuel (k + 1)

/-- The exponent of the first digit of num/den. -/
def leadingExponent (num den : Nat) : Int :=
  if den ≤ num then (digits (num / den)).length - 1
  else -(climb num den 400 1 : Int)

/-- The factors that bring num/den onto the grid of 10^k: num times the first over den times the second. -/
def gridFactors (k : Int) : Nat × Nat :=
  if k < 0 then (Nat.pow 10 k.natAbs, 1) else (1, Nat.pow 10 k.natAbs)

/-- The interval of numbers that round to a rank, in steps of 2⁻¹⁰⁷⁵: lower end, number, upper end, and whether the
ends belong to it. -/
structure Interval where
  low : Nat
  mid : Nat
  high : Nat
  closed : Bool

def Interval.ofRank (rank : Nat) : Interval :=
  let u := Binary64.units rank
  { low := Binary64.units (rank - 1) + u, mid := 2 * u, high := u + Binary64.units (rank + 1),
    closed := rank % 2 == 0 }

/-- The multiple of 10^k nearest to the number, if one of its neighbours on that grid lies in the interval. -/
def Interval.onGrid (tie : Tie) (i : Interval) (k : Int) : Option Decimal :=
  let (a, b) := gridFactors k
  let step := b * (2 * Binary64.unitsPerOne)
  let c := i.mid * a / step
  let lowIn := if i.closed then i.low * a ≤ c * step else i.low * a < c * step
  let highIn := if i.closed then (c + 1) * step ≤ i.high * a else (c + 1) * step < i.high * a
  if lowIn ∧ highIn then
    let twice := 2 * (i.mid * a)
    let half := (2 * c + 1) * step
    some { coefficient := if twice < half then c else if half < twice then c + 1 else tie.pick c, exponent := k }
  else if lowIn then some { coefficient := c, exponent := k }
  else if highIn then some { coefficient := c + 1, exponent := k }
  else none

/-- Tries grids with one more digit each time, the first of them 10^k. -/
def Interval.firstGrid (tie : Tie) (i : Interval) : Nat → Int → Decimal
  | 0, k => { coefficient := i.mid * (gridFactors k).1 / ((gridFactors k).2 * (2 * Binary64.unitsPerOne)), exponent := k }
  | fuel + 1, k => (i.onGrid tie k).getD (i.firstGrid tie fuel (k - 1))

/-- The decimal of fewest digits that reads back as the rank, of those the nearest. -/
def shortest (tie : Tie) (rank : Nat) : Decimal :=
  if rank = 0 then { coefficient := 0, exponent := 0 }
  else
    let i := Interval.ofRank rank
    stripZeros 20 (i.firstGrid tie 17 (leadingExponent i.mid (2 * Binary64.unitsPerOne)))

end Decimal

end Herbarium
