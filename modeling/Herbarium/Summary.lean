import Herbarium.Json.Printer
import Herbarium.Specimen.Basic

/-!
Column statistics.

A summary reports for each field how many values there are and how many differ, and for the lengths also the least,
the greatest and the median. Lengths are ordered and told apart by their bit patterns, so the negative zero is a value
of its own, just below zero. The median is half the sum of the two central values, which coincide when the count is
odd.
-/

namespace Herbarium

/-- Least, greatest and median value of a column. -/
structure Extent where
  minimum : Binary64
  maximum : Binary64
  median : Binary64
  deriving DecidableEq

structure ColumnSummary where
  typeName : String
  total : Nat
  unique : Nat
  extent : Option Extent
  deriving DecidableEq

/-- The statistics of all columns, by name. -/
abbrev Summary := List (String × ColumnSummary)

namespace Summary

/-- The middle of a sorted list: half the sum of the values at n/2 and n-1-n/2. -/
def median (sorted : List Binary64) : Option Binary64 := do
  let upper ← sorted[sorted.length / 2]?
  let lower ← sorted[sorted.length - 1 - sorted.length / 2]?
  return (upper.add lower).half

/-- The number of runs of equal values, which for a sorted list is the number of different values. -/
def runs {α : Type} [DecidableEq α] : List α → Nat
  | [] => 0
  | [_] => 1
  | a :: b :: rest => if a = b then runs (b :: rest) else runs (b :: rest) + 1

def lengths (field : Field) (records : List Specimen) : List Binary64 :=
  records.filterMap fun r =>
    match r.get field with
    | .real x => some x
    | .null | .int _ | .text _ => none

def texts (field : Field) (records : List Specimen) : List String :=
  records.map fun r => (r.get field).render

def extentOf (sorted : List Binary64) : Option Extent := do
  let minimum ← sorted.head?
  let maximum ← sorted.getLast?
  let median ← median sorted
  return { minimum, maximum, median }

def column (field : Field) (records : List Specimen) : ColumnSummary :=
  if field.type.isNumeric then
    let sorted := (lengths field records).mergeSort Binary64.totalLe
    { typeName := field.typeName, total := records.length, unique := runs sorted, extent := extentOf sorted }
  else
    let sorted := (texts field records).mergeSort fun a b => decide (a ≤ b)
    { typeName := field.typeName, total := records.length, unique := runs sorted, extent := none }

/-- The fields in the order of their names. -/
def order : List Field := [.petalLength, .petalWidth, .sepalLength, .sepalWidth, .species]

/-- The statistics of specimens, by field name. -/
def ofRecords (records : List Specimen) : Summary :=
  order.map fun field => (field.name, column field records)

/-- The statistics of a column as JSON; the extent is written if there is one. -/
def columnJson (c : ColumnSummary) : Json :=
  .object ([("type", .string c.typeName), ("n_total_values", .integer c.total), ("n_unique_values", .integer c.unique)] ++
    match c.extent with
    | some e => [("minimum", .real e.minimum), ("maximum", .real e.maximum), ("median", .real e.median)]
    | none => [])

def toJson (s : Summary) : Json :=
  .object (s.map fun (name, c) => (name, columnJson c))

end Summary

end Herbarium
