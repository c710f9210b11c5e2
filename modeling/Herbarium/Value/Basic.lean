import Herbarium.Decimal.Notation
import Herbarium.Decimal.Reader
import Herbarium.Text.Case

/-!
Values and column types.

A `Value` is what a cell, a filter operand or a field of a row holds: nothing, a 64-bit integer, a binary64 number or
a text. `coerce` gives raw text the narrowest fitting value, `cast` gives a stored value back the type its column was
declared with, and `render` is the plain text of a value.
-/

namespace Herbarium

inductive Value where
  | null
  | int (n : Int64)
  | real (x : Binary64)
  | text (s : String)
  deriving DecidableEq

/-- A row: column names and values, in order. -/
abbrev Row := List (String × Value)

inductive ColumnType where
  | null
  | integer
  | float
  | string
  deriving DecidableEq, Inhabited

namespace ColumnType

/-- The type as a column declaration writes it. -/
def declaration : ColumnType → String
  | null => "NULL"
  | integer => "INTEGER"
  | float => "REAL"
  | string => "TEXT"

/-- The type a column declaration stands for; a declaration not known is text. -/
def ofDeclaration (declared : String) : ColumnType :=
  let word := Text.upperWord (Text.trim declared)
  if word = "NULL" then null
  else if word = "INT" ∨ word = "INTEGER" then integer
  else if word = "REAL" ∨ word = "FLOAT" ∨ word = "DOUBLE" then float
  else string

/-- The type's name in messages. -/
def name : ColumnType → String
  | null => "null"
  | integer => "integer"
  | float => "float"
  | string => "string"

def isNumeric : ColumnType → Bool
  | integer | float => true
  | null | string => false

end ColumnType

namespace Value

/-- The bound below which a whole number narrows to an integer: 2⁶³, exclusive. -/
def narrowLimit : Binary64 := Binary64.ofInt 0x8000000000000000

/-- A number as an integer if it is whole and below the bound in magnitude, else as it is. -/
def narrow (x : Binary64) : Value :=
  if x.isWhole && x.abs.compareNumeric narrowLimit == .lt then int x.toInt64 else real x

/-- The narrowest value of a raw text: numeric text is a number, whole numbers are integers, the rest stays text with
its blanks. -/
def coerce (raw : String) : Value :=
  match Binary64.read? (Text.trim raw) with
  | some x => narrow x
  | none => text raw

/-- The plain text of a value. -/
def render : Value → String
  | null => "NULL"
  | int n => Decimal.integerText n.toInt
  | real x => x.plainText
  | text s => s

/-- A stored value as its column's type reads it. -/
def cast : Value → ColumnType → Value
  | int n, .float => real (Binary64.ofInt n.toInt)
  | real x, .integer => if x.isWhole then int x.toInt64 else real x
  | text s, .float =>
    match Binary64.read? (Text.trim s) with
    | some x => real x
    | none => text s
  | int n, .string => text (render (int n))
  | real x, .string => text (render (real x))
  | v, _ => v

end Value

end Herbarium
