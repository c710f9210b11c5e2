import Herbarium.Decimal.Notation

/-!
Decimal numbers cut to a fixed count of significant digits.

`significant` rounds a finite magnitude to a number of digits, halves away from zero.
-/

namespace Herbarium.Decimal

/-- The multiple of 10^k nearest to num/den, a half going up. -/
def roundHalfUp (num den : Nat) (k : Int) : Nat :=
  let (a, b) := gridFactors k
  (2 * num * a + den * b) / (2 * den * b)

/-- A finite rank to `count` significant digits, zeros at the end taken off. -/
def significant (count : Nat) (rank : Nat) : Decimal :=
  if rank = 0 then { coefficient := 0, exponent := 0 }
  else
    let num := Binary64.units rank
    let k := leadingExponent num Binary64.unitsPerOne + 1 - count
    stripZeros (count + 1) { coefficient := roundHalfUp num Binary64.unitsPerOne k, exponent := k }

end Herbarium.Decimal
