import Herbarium.Text.Blank
import Herbarium.Decimal.Shortest

/-!
Reading numbers from text.

`Decimal.read?` accepts an optional sign, digits with an optional point among them and an optional exponent, at least
one digit in all, and nothing else. `Binary64.ofDecimal` rounds the decimal it denotes correctly, and `Binary64.read`
adds the names of the infinities and of "not a number", in any case of their letters.
-/

namespace Herbarium.Decimal

def spanDigits (cs : List Char) : List Char × List Char :=
  cs.span (fun c => (digitValue? c).isSome)

/-- Splits off a sign at the front; true is minus. -/
def spanSign : List Char → Bool × List Char
  | '-' :: cs => (true, cs)
  | '+' :: cs => (false, cs)
  | cs => (false, cs)

/-- Reads an exponent that takes up the whole rest; no rest is the exponent zero. -/
def readExponent? : List Char → Option Int
  | [] => some 0
  | c :: cs =>
    if c = 'e' ∨ c = 'E' then
      let (negative, ds) := spanSign cs
      match spanDigits ds with
      | ([], _) => none
      | (es, []) => some (if negative then -(valueOfDigits es : Int) else valueOfDigits es)
      | _ => none
    else none

/-- The digits before and after an optional point, and what follows them. -/
def spanMantissa (cs : List Char) : List Char × List Char × List Char :=
  match spanDigits cs with
  | (whole, '.' :: rest) =>
    match spanDigits rest with
    | (fraction, rest) => (whole, fraction, rest)
  | (whole, rest) => (whole, [], rest)

/-- Reads a decimal number that takes up the whole text: whether a minus stands before it, and its magnitude. -/
def read? (cs : List Char) : Option (Bool × Decimal) :=
  let (negative, cs) := spanSign cs
  let (whole, fraction, rest) := spanMantissa cs
  if whole.isEmpty && fraction.isEmpty then none
  else (readExponent? rest).map fun e =>
    (negative, { coefficient := valueOfDigits (whole ++ fraction), exponent := e - fraction.length })

end Herbarium.Decimal

namespace Herbarium.Binary64

/-- The number nearest to a decimal. Magnitudes from 10⁴⁰⁰ on are infinite and those below 10⁻⁴⁰⁰ are zero, so that
no larger power of ten is ever computed. -/
def ofDecimal (negative : Bool) (d : Decimal) : Binary64 :=
  let size := ((Decimal.digits d.coefficient).length : Int) + d.exponent
  if d.coefficient = 0 ∨ size < -400 then ofRank negative 0
  else if 400 < size then infinity negative
  else if d.exponent < 0 then ofRatio negative d.coefficient (Nat.pow 10 d.exponent.natAbs)
  else ofRatio negative (d.coefficient * Nat.pow 10 d.exponent.natAbs) 1

/-- Why a text is no number. -/
inductive ReadFault where
  | empty
  | invalid
  deriving DecidableEq

def ReadFault.message : ReadFault → String
  | .empty => "cannot parse float from empty string"
  | .invalid => "invalid float literal"

def ofName? (negative : Bool) (name : String) : Option Binary64 :=
  if name = "inf" ∨ name = "infinity" then some (infinity negative)
  else if name = "nan" then some (nan negative)
  else none

/-- Reads a number that takes up the whole text. -/
def read (s : String) : Except ReadFault Binary64 :=
  match s.toList with
  | [] => .error .empty
  | cs =>
    match Decimal.read? cs with
    | some (negative, d) => .ok (ofDecimal negative d)
    | none =>
      let (negative, rest) := Decimal.spanSign cs
      match ofName? negative (String.ofList (rest.map Text.asciiLower)) with
      | some x => .ok x
      | none => .error .invalid

/-- Reads a number that takes up the whole text, if there is one. -/
def read? (s : String) : Option Binary64 :=
  (read s).toOption

end Herbarium.Binary64
