import Herbarium.Schema

/-!
Specimens.

A specimen is one measured flower: four lengths and the name of its species. It is built from named values, `ofFields`,
which keeps the last value of each field and sets aside names that are no field, or changed one field at a time,
`set`, which refuses such names. Lengths come from numbers and numeric text and must be finite; the species is text.

Equality of specimens is equality of the bit patterns of the lengths and of the species' text.
-/

namespace Herbarium

inductive Field where
  | sepalLength
  | sepalWidth
  | petalLength
  | petalWidth
  | species
  deriving DecidableEq

namespace Field

def all : List Field := [sepalLength, sepalWidth, petalLength, petalWidth, species]

def name : Field → String
  | sepalLength => "sepal_length"
  | sepalWidth => "sepal_width"
  | petalLength => "petal_length"
  | petalWidth => "petal_width"
  | species => "species"

def ofName? (name : String) : Option Field := all.find? fun f => f.name == name

/-- The type of the column that stores a field. -/
def type : Field → ColumnType
  | species => .string
  | sepalLength | sepalWidth | petalLength | petalWidth => .float

/-- The name of a field's type in summaries. -/
def typeName (f : Field) : String := if f.type = .string then "str" else "float"

/-- The names of all fields, as messages list them. -/
def allowedNames : String := String.intercalate ", " (all.map name)

end Field

structure Specimen where
  sepalLength : Binary64 := .zero
  sepalWidth : Binary64 := .zero
  petalLength : Binary64 := .zero
  petalWidth : Binary64 := .zero
  species : String := ""
  deriving DecidableEq

namespace Specimen

/-- Why a value is not assigned. -/
inductive Fault where
  /-- Text that is no number, for a length. -/
  | notNumber (field : Field) (given : String)
  /-- A number that is not finite, for a length. -/
  | notFinite (field : Field) (given : Binary64)
  /-- A name that is no field. -/
  | unknownField (name : String)
  deriving DecidableEq

def Fault.message : Fault → String
  | .notNumber field given => s!"field {field.name} expects a number, got '{given}'"
  | .notFinite field given => s!"field {field.name} expects a finite number, got {given.plainText}"
  | .unknownField name => s!"can't assign field '{name}' to Iris, allowed fields: {Field.allowedNames}"

/-- The number a value gives a length: nothing and blank text are zero. -/
def numberOf (field : Field) : Value → Except Fault Binary64
  | .null => .ok .zero
  | .int n => .ok (.ofInt n.toInt)
  | .real x => .ok x
  | .text s =>
    if Text.isBlankText s then .ok .zero
    else match Binary64.read? (Text.trim s) with
      | some x => .ok x
      | none => .error (.notNumber field s)

/-- The length a value gives, if finite. -/
def lengthOf (field : Field) (v : Value) : Except Fault Binary64 := do
  let x ← numberOf field v
  if x.isFinite then return x else throw (.notFinite field x)

/-- The text a value gives the species. -/
def textOf : Value → String
  | .null => ""
  | v => v.render

def assign (r : Specimen) (field : Field) (v : Value) : Except Fault Specimen :=
  match field with
  | .sepalLength => (lengthOf field v).map fun x => { r with sepalLength := x }
  | .sepalWidth => (lengthOf field v).map fun x => { r with sepalWidth := x }
  | .petalLength => (lengthOf field v).map fun x => { r with petalLength := x }
  | .petalWidth => (lengthOf field v).map fun x => { r with petalWidth := x }
  | .species => .ok { r with species := textOf v }

def set (r : Specimen) (name : String) (v : Value) : Except Fault Specimen :=
  match Field.ofName? name with
  | some field => r.assign field v
  | none => .error (.unknownField name)

def get (r : Specimen) : Field → Value
  | .sepalLength => .real r.sepalLength
  | .sepalWidth => .real r.sepalWidth
  | .petalLength => .real r.petalLength
  | .petalWidth => .real r.petalWidth
  | .species => .text r.species

/-- Names and values of all fields, in their order. -/
def entries (r : Specimen) : Row := Field.all.map fun f => (f.name, r.get f)

def tableName : String := "iris"

/-- The schema of the table of specimens: a column for each field. -/
def schema : Schema :=
  { name := tableName, columns := Field.all.map fun f => { name := f.name, type := f.type } }

/-- A specimen read from a row, and the names of the row that are no fields. -/
structure Reading where
  specimen : Specimen
  dropped : List String
  deriving DecidableEq

/-- Assigns the values of a row one after the other. -/
def readRow (r : Specimen) (dropped : List String) : Row → Except Fault Reading
  | [] => .ok { specimen := r, dropped := dropped.reverse }
  | (name, v) :: rest =>
    match Field.ofName? name with
    | some field =>
      match r.assign field v with
      | .ok r => readRow r dropped rest
      | .error f => .error f
    | none => readRow r (name :: dropped) rest

/-- Reads a specimen from named values, up to the first that cannot be assigned. -/
def ofFields (row : Row) : Except Fault Reading := readRow {} [] row

/-- What is reported about names that were dropped. -/
structure Warning where
  message : String
  dropped : String
  allowed : String
  deriving DecidableEq

/-- The warning about a reading, if it dropped a name. -/
def Reading.warning? (r : Reading) : Option Warning :=
  if r.dropped = [] then none
  else some { message := "ignoring fields not defined for Iris",
              dropped := String.intercalate ", " r.dropped,
              allowed := Field.allowedNames }

end Specimen

end Herbarium
