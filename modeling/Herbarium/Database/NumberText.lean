import Herbarium.Decimal.Significant
import Herbarium.Value.Basic

/-!
Numbers in stored text.

A text denotes a number if a number is all it holds, blanks around it aside. An integer is exact if it fits 64 bits. A
real is read in steps: as many of its digits as a 64-bit number holds, then a power of ten brought in factor by factor,
each product rounded to 64 binary digits, and the result rounded once more. That is within the last place of the number
written, and it is the number written wherever few digits and a small power are enough. A number becomes text with
fifteen significant digits.
-/

namespace Herbarium

/-- The number significand · 2^exponent. -/
structure Scaled where
  significand : Nat
  exponent : Int
  deriving DecidableEq

namespace Scaled

/-- A number with its significand rounded to 64 binary digits. -/
def rounded (significand : Nat) (exponent : Int) : Scaled :=
  let shift := significand.log2 - 63
  { significand := Binary64.roundDiv significand (1 <<< shift), exponent := exponent + shift }

def mul (x y : Scaled) : Scaled :=
  rounded (x.significand * y.significand) (x.exponent + y.exponent)

def powerOfTen (n : Nat) : Scaled := rounded (Nat.pow 10 n) 0

def inverseOfTen (n : Nat) : Scaled :=
  let bits : Nat := 64 + (Nat.pow 10 n).log2
  { significand := Binary64.roundDiv (1 <<< bits) (Nat.pow 10 n), exponent := -(bits : Int) }

/-- The product with several equal factors, one after the other. -/
def mulTimes (factor : Scaled) : Nat → Scaled → Scaled
  | 0, x => x
  | n + 1, x => mulTimes factor n (x.mul factor)

/-- The product with a power of ten: its hundreds first, then its tens and ones. -/
def scale (x : Scaled) (power : Int) : Scaled :=
  let factor := fun n => if power < 0 then inverseOfTen n else powerOfTen n
  let n := power.natAbs
  mulTimes (factor 1) (n % 10) (mulTimes (factor 10) (n % 100 / 10) (mulTimes (factor 100) (n / 100) x))

/-- The nearest binary64 number; what exceeds the largest finite one is infinite. -/
def toBinary64 (negative : Bool) (x : Scaled) : Binary64 :=
  if x.exponent < 0 then
    let den := 1 <<< x.exponent.natAbs
    if (0x1FFFFFFFFFFFFF <<< 971) * den < x.significand then .infinity negative
    else .ofRatio negative x.significand den
  else
    let num := x.significand <<< x.exponent.natAbs
    if 0x1FFFFFFFFFFFFF <<< 971 < num then .infinity negative else .ofRatio negative num 1

end Scaled

namespace Value

/-- The number up to which another digit fits beside it in 64 bits. -/
def digitRoom : Nat := (0x10000000000000000 - 10) / 10

/-- Takes in the digits before the point: the number of those that fit, and how many did not. -/
def takeWhole (sum : Nat) : List Char → Nat × Nat
  | [] => (sum, 0)
  | c :: cs =>
    let sum := sum * 10 + (Decimal.digitValue? c).getD 0
    if digitRoom ≤ sum then (sum, cs.length) else takeWhole sum cs

/-- Takes in the digits after the point: the number with those that fit, and how many of them did. -/
def takeFraction (sum taken : Nat) : List Char → Nat × Nat
  | [] => (sum, taken)
  | c :: cs =>
    if sum < digitRoom then takeFraction (sum * 10 + (Decimal.digitValue? c).getD 0) (taken + 1) cs
    else takeFraction sum taken cs

/-- Moves a positive power of ten into a number as far as it fits 64 bits, and zeros at its end out of it while the
power is negative. The bound on the steps is met by the digits of 64 bits. -/
def settle : Nat → Nat → Int → Nat × Int
  | 0, sum, power => (sum, power)
  | fuel + 1, sum, power =>
    if 0 < power ∧ sum < 0xFFFFFFFFFFFFFFFF / 10 then settle fuel (sum * 10) (power - 1)
    else if power < 0 ∧ sum % 10 = 0 then settle fuel (sum / 10) (power + 1)
    else (sum, power)

/-- The real number that digits before and after a point and an exponent write. -/
def realOf (negative : Bool) (whole fraction : List Char) (exponent : Int) : Binary64 :=
  let (sum, dropped) := takeWhole 0 whole
  let (sum, taken) := takeFraction sum 0 fraction
  if sum = 0 then .ofRank negative 0
  else
    let (sum, power) := settle 20 sum (max (-10000) (min 10000 exponent) + dropped - taken)
    if power = 0 then .ofRatio negative sum 1
    else ((Scaled.rounded sum 0).scale power).toBinary64 negative

/-- The blanks that may surround a number in text. -/
def isNumberBlank (c : Char) : Bool :=
  c == ' ' || (9 ≤ c.toNat && c.toNat ≤ 13)

def int? (n : Int) : Option Value :=
  if Int64.minValue.toInt ≤ n ∧ n ≤ Int64.maxValue.toInt then some (int (Int64.ofInt n)) else none

/-- The number a text denotes as a whole, blanks around it aside: an integer if it is written with digits only and
fits 64 bits, else a real. -/
def number? (s : String) : Option Value :=
  let (negative, cs) := Decimal.spanSign (Text.trimMatches isNumberBlank s.toList)
  let (whole, fraction, rest) := Decimal.spanMantissa cs
  if whole.isEmpty && fraction.isEmpty then none
  else (Decimal.readExponent? rest).map fun e =>
    let x := real (realOf negative whole fraction e)
    if whole.length = cs.length then
      let n := Decimal.valueOfDigits whole
      (int? (if negative then -(n : Int) else n)).getD x
    else x

/-- Numbers in stored text: fifteen digits, positional from 10⁻⁴ up to 10¹⁵, always with a fraction. -/
def storedLayout : Decimal.Layout :=
  { positional := fun point => -4 < point && point ≤ 15, wholeFraction := true, exponentFraction := true,
    exponentWidth := 2 }

def storedText (x : Binary64) : String :=
  if x.isFinite then
    Decimal.write storedLayout (x.negative && !x.isZero) (Decimal.significant 15 x.rank)
  else if x.negative then "-Inf" else "Inf"

end Value

end Herbarium
