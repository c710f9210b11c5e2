import Herbarium.Value.Basic
import Herbarium.Json.Printer
import Herbarium.Json.Parser

/-!
Values and JSON.

There are two ways from JSON to a value. `ofJson` takes any JSON: booleans become integers, arrays and objects their
own compact text. `decode` takes a text and tries one form of value after the other, which admits only null, numbers and
strings, the forms `toJson` writes. On those the two agree.
-/

namespace Herbarium.Value

/-- An integer as a value: itself if it fits 64 bits, else the nearest real number. -/
def ofInteger (n : Int) : Value :=
  if Int64.minValue.toInt ≤ n ∧ n ≤ Int64.maxValue.toInt then int (Int64.ofInt n) else real (Binary64.ofInt n)

/-- Any JSON as a value. -/
def ofJson : Json → Value
  | .null => null
  | .bool b => int (if b then 1 else 0)
  | .integer n => ofInteger n
  | .real x => real x
  | .string s => text s
  | .array elements => text (Json.array elements).render
  | .object members => text (Json.object members).render

def toJson : Value → Json
  | null => .null
  | int n => .integer n.toInt
  | real x => .real x
  | text s => .string s

/-- What keeps a text from being a value. -/
inductive DecodeFault where
  | json (fault : Json.Fault)
  | noVariant
  deriving DecidableEq

def DecodeFault.message (f : DecodeFault) (source : String) : String :=
  match f with
  | json fault => fault.message source
  | noVariant => "data did not match any variant of untagged enum Value"

/-- The forms a value is tried as. -/
inductive Variant where
  | null
  | int
  | real
  | text
  deriving DecidableEq

/-- The forms in the order they are tried. Every integer is a real number too, so `real` comes behind `int`. -/
def Variant.order : List Variant := [null, int, real, text]

/-- JSON as one form of value. An integer is of form `int` only if it fits 64 bits. -/
def Variant.read? : Variant → Json → Option Value
  | null, .null => some Value.null
  | int, .integer n =>
    if Int64.minValue.toInt ≤ n ∧ n ≤ Int64.maxValue.toInt then some (Value.int (Int64.ofInt n)) else none
  | real, .integer n => some (Value.real (Binary64.ofInt n))
  | real, .real x => some (Value.real x)
  | text, .string s => some (Value.text s)
  | _, _ => none

/-- JSON as the first form that takes it. -/
def ofVariants? (j : Json) : Option Value := Variant.order.findSome? fun v => v.read? j

/-- Reads a value. Whether the form is admitted is asked before the end of the text. -/
def decode (source : String) : Except DecodeFault Value := do
  let (j, rest) ← (Json.readFirst source).mapError .json
  match ofVariants? j with
  | none => throw .noVariant
  | some v =>
    (Json.endOfText rest).mapError .json
    return v

end Herbarium.Value
