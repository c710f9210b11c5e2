/-!
Binary floating-point numbers of 64 bits.

A number is its sign and its rank: the exponent and fraction fields read as one natural number. The rank orders
magnitudes, so `units`, the magnitude in steps of 2⁻¹⁰⁷⁴, is strictly monotone in it, and every finite number is the
integer `signedUnits` of such steps. Comparison, rounding and the arithmetic are exact integer computations on
these steps; nothing here rests on a machine float.

Two numbers are equal as values of this type exactly when their bit patterns agree, so the two zeros differ and so
do two patterns of "not a number".
-/

namespace Herbarium

/-- A binary64 bit pattern: the sign bit and the other 63 bits. -/
structure Binary64 where
  negative : Bool
  rank : Nat
  rank_lt : rank < 0x8000000000000000 := by omega
  deriving DecidableEq

namespace Binary64

/-- Ranks of one binade: the number of fractions. -/
def binade : Nat := 0x10000000000000

/-- The rank of infinity: exponent field all ones, fraction zero. -/
def infinityRank : Nat := 2047 * binade

/-- The magnitude of a rank in steps of 2⁻¹⁰⁷⁴. -/
def units (rank : Nat) : Nat :=
  if rank < binade then rank else (binade + rank % binade) <<< (rank / binade - 1)

def unitsPerOne : Nat := 1 <<< 1074

def zero : Binary64 := { negative := false, rank := 0 }

instance : Inhabited Binary64 := ⟨zero⟩

def infinity (negative : Bool) : Binary64 :=
  { negative, rank := infinityRank, rank_lt := by decide }

/-- The quiet "not a number" of a sign. -/
def nan (negative : Bool) : Binary64 :=
  { negative, rank := infinityRank + 0x8000000000000, rank_lt := by decide }

def isNaN (x : Binary64) : Bool := infinityRank < x.rank

def isInfinite (x : Binary64) : Bool := x.rank == infinityRank

def isFinite (x : Binary64) : Bool := x.rank < infinityRank

def isZero (x : Binary64) : Bool := x.rank == 0

/-- The number with a sign, of a rank cut off at infinity. -/
def ofRank (negative : Bool) (rank : Nat) : Binary64 :=
  { negative, rank := min rank infinityRank,
    rank_lt := Nat.lt_of_le_of_lt (Nat.min_le_right _ _) (by decide) }

/-- The number in steps of 2⁻¹⁰⁷⁴, an infinity as the step after the largest finite one. -/
def signedUnits (x : Binary64) : Int :=
  if x.negative then -(units x.rank : Int) else units x.rank

/-- The quotient rounded to the nearest natural number, halves to the even one. -/
def roundDiv (num den : Nat) : Nat :=
  let q := num / den
  let r := num % den
  if 2 * r < den then q else if den < 2 * r then q + 1 else if q % 2 = 0 then q else q + 1

/-- The rank nearest to num/den steps: whole steps below 2⁵³ of them, then 53 binary digits; halves go to the even
rank. -/
def nearestRank (num den : Nat) : Nat :=
  let shift := (num / den).log2 - 52
  shift * binade + roundDiv num (den <<< shift)

/-- The number nearest to ±num/den. -/
def ofRatio (negative : Bool) (num den : Nat) : Binary64 :=
  ofRank negative (nearestRank (num * unitsPerOne) den)

def ofInt (n : Int) : Binary64 :=
  ofRatio (n < 0) n.natAbs 1

/-- The number nearest to an integer count of steps; `zeroSign` is the sign of an exact zero. -/
def ofSignedUnits (n : Int) (zeroSign : Bool) : Binary64 :=
  ofRank (if n = 0 then zeroSign else n < 0) (nearestRank n.natAbs 1)

/-- The sum, rounded to nearest: opposite numbers give the positive zero, and infinities of opposite signs no
number. -/
def add (x y : Binary64) : Binary64 :=
  if x.isNaN then x
  else if y.isNaN then y
  else if x.isInfinite then
    if y.isInfinite && x.negative != y.negative then nan true else x
  else if y.isInfinite then y
  else ofSignedUnits (x.signedUnits + y.signedUnits) (x.negative && y.negative)

def half (x : Binary64) : Binary64 :=
  if x.isFinite then ofRank x.negative (nearestRank (units x.rank) 2) else x

/-- Numeric order of numbers other than NaN; the zeros are one. -/
def compareNumeric (x y : Binary64) : Ordering :=
  compare x.signedUnits y.signedUnits

/-- Order of an integer and a number other than NaN, without rounding either. -/
def compareInt (n : Int) (y : Binary64) : Ordering :=
  compare (n * unitsPerOne) y.signedUnits

/-- The place in the total order of bit patterns: negative patterns by falling rank, then positive ones by rising
rank, so the negative zero comes just before the positive one. -/
def orderKey (x : Binary64) : Int :=
  if x.negative then -(x.rank : Int) - 1 else x.rank

/-- Less or equal in the total order of bit patterns. -/
def totalLe (x y : Binary64) : Bool := x.orderKey ≤ y.orderKey

/-- Whether the number is finite and whole. -/
def isWhole (x : Binary64) : Bool :=
  x.isFinite && units x.rank % unitsPerOne == 0

/-- The integer part, toward zero; infinities count as the whole number their rank stands for. -/
def truncate (x : Binary64) : Int :=
  let n : Int := (units x.rank / unitsPerOne : Nat)
  if x.negative then -n else n

/-- The integer part clamped to 64 bits. -/
def toInt64 (x : Binary64) : Int64 :=
  let n := x.truncate
  if n < Int64.minValue.toInt then Int64.minValue
  else if Int64.maxValue.toInt < n then Int64.maxValue
  else Int64.ofInt n

def abs (x : Binary64) : Binary64 := { x with negative := false }

end Binary64

end Herbarium
