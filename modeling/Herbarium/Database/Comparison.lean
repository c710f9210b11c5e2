import Herbarium.Clause
import Herbarium.Database.Affinity

/-!
Comparison of values.

Numbers come before texts; integers and reals compare exactly, texts code point by code point. A comparison with
nothing holds in no case. Before comparing, both sides take the affinity of the column side, so a condition that a
value is among several is the disjunction of its equalities.
-/

namespace Herbarium

def compareText (s t : String) : Ordering :=
  if s < t then .lt else if s = t then .eq else .gt

/-- The order of two values, unless one of them is nothing. -/
def Value.order? : Value → Value → Option Ordering
  | .null, _ => none
  | _, .null => none
  | .int n, .int m => some (compare n.toInt m.toInt)
  | .int n, .real y => some (Binary64.compareInt n.toInt y)
  | .real x, .int m => some (Binary64.compareInt m.toInt x).swap
  | .real x, .real y => some (x.compareNumeric y)
  | .text s, .text t => some (compareText s t)
  | .text _, _ => some .gt
  | _, .text _ => some .lt

/-- Whether a comparison holds of an order. -/
def Comparison.admits : Comparison → Ordering → Bool
  | .equal, o => o == .eq
  | .notEqual, o => o != .eq
  | .lessThan, o => o == .lt
  | .greaterThan, o => o == .gt

/-- Whether a value compares as asked with another under an affinity. -/
def Comparison.holds (op : Comparison) (a : Affinity) (v w : Value) : Bool :=
  match Value.order? (v.compareAs a) (w.compareAs a) with
  | some o => op.admits o
  | none => false

/-- Whether a value passes a test under an affinity; the test's operands are as the statement receives them. -/
def Test.holds (t : Test) (a : Affinity) (v : Value) : Bool :=
  match t with
  | .compare op w => op.holds a v w.bind
  | .among ws => ws.any fun w => Comparison.equal.holds a v w.bind

end Herbarium
