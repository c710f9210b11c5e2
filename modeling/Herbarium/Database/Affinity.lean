import Herbarium.Database.NumberText

/-!
Affinities.

A column prefers a kind of value, read off its declared type: text, numbers, integers, reals or none at all. A value is
converted when it is stored or compared, if nothing of it is lost: numeric text becomes a number under a numeric
affinity, whole reals become integers under all numeric ones but the real affinity, which turns integers into reals and
forgets the sign of zero; numbers become text under the text affinity, with fifteen significant digits.
-/

namespace Herbarium

/-- The kind of value a column prefers. -/
inductive Affinity where
  | none
  | text
  | numeric
  | integer
  | real
  deriving DecidableEq

namespace Affinity

def containsWord (word : List Char) : List Char → Bool
  | [] => word.isEmpty
  | c :: cs => word.isPrefixOf (c :: cs) || containsWord word cs

def ofDeclared (declared : String) : Affinity :=
  let has := fun word => containsWord word (declared.toList.map Text.asciiLower)
  if has "int".toList then integer
  else if has "char".toList || has "clob".toList || has "text".toList then text
  else if declared.isEmpty || has "blob".toList then none
  else if has "real".toList || has "floa".toList || has "doub".toList then real
  else numeric

def isNumeric : Affinity → Bool
  | numeric | integer | real => true
  | none | text => false

end Affinity

namespace Value

/-- A real that is a 64-bit integer other than the extremes, as that integer. -/
def wholeToInt (x : Binary64) : Value :=
  let n := x.truncate
  if x.isWhole && Int64.minValue.toInt < n && n < Int64.maxValue.toInt then int (Int64.ofInt n) else real x

/-- A number as a real column holds it. -/
def toReal : Value → Value
  | int n => real (Binary64.ofInt n.toInt)
  | real x => if x.isZero then real .zero else real x
  | v => v

/-- A number as an integer column holds it. -/
def toInteger : Value → Value
  | real x => wholeToInt x
  | v => v

/-- A text as the number it denotes, if it does; other values as they are. -/
def parseNumber : Value → Value
  | text s => (number? s).getD (text s)
  | v => v

def parseText : Value → Value
  | int n => text (Decimal.integerText n.toInt)
  | real x => text (storedText x)
  | v => v

/-- A value as a statement receives it: a real that is no number is nothing. -/
def bind : Value → Value
  | real x => if x.isNaN then null else real x
  | v => v

/-- A value as a column of an affinity holds it. -/
def store (v : Value) : Affinity → Value
  | .none => v
  | .text => v.parseText
  | .numeric | .integer => v.parseNumber.toInteger
  | .real => v.parseNumber.toReal

/-- A value as it is compared under an affinity. -/
def compareAs (v : Value) (a : Affinity) : Value :=
  if a.isNumeric then v.parseNumber
  else if a = .text then v.parseText
  else v

end Value

end Herbarium
