import Herbarium.Csv
import Herbarium.Error
import Herbarium.Specimen.Basic
import Herbarium.Value.Json

/-!
Specimens from text and back.

`ofCsv` reads a table whose first record names the fields, `ofJson` an array of objects or a single object. Both stop
at the first row that fails. `toJson` writes a specimen as an object with its fields in order.
-/

namespace Herbarium.Specimen

/-- Why a text does not load. -/
inductive LoadFault where
  | csv (fault : Csv.Fault)
  | json (fault : Json.Fault)
  | row (fault : Specimen.Fault)
  | notObject (given : Json)

/-- The report of an assignment that failed. -/
def Fault.toError : Fault → Error
  | .notNumber field given => .parse (Fault.notNumber field given).message
  | .notFinite field given => .parse (Fault.notFinite field given).message
  | .unknownField name => .schema (Fault.unknownField name).message

/-- The report of a JSON fault in a text. -/
def jsonError (f : Json.Fault) (source : String) : Error := .parse ("invalid json: " ++ f.message source)

def LoadFault.toError (f : LoadFault) (source : String) : Error :=
  match f with
  | csv fault => .parse ("invalid csv: " ++ fault.message source)
  | json fault => jsonError fault source
  | row fault => fault.toError
  | notObject given => .parse ("expected a JSON object per row, got " ++ given.render)

def ofRecord (header : List String) (record : Csv.Record) (number : Nat) : Except LoadFault Reading := do
  (record.check number header.length).mapError .csv
  (ofFields (header.zip (record.fields.map Value.text))).mapError .row

def ofCsv (source : String) : Except LoadFault (List Reading) :=
  match Csv.records source with
  | [] => .ok []
  | header :: rows => (rows.zipIdx 1).mapM fun (record, number) => ofRecord header.fields record number

def ofObject : Json → Except LoadFault Reading
  | .object members => (ofFields (members.map fun (name, v) => (name, Value.ofJson v))).mapError .row
  | other => .error (.notObject other)

/-- Reads an array of objects or a single one. -/
def ofJson (source : String) : Except LoadFault (List Reading) := do
  match ← (Json.parse source).mapError .json with
  | .array rows => rows.mapM ofObject
  | single => [single].mapM ofObject

def toJson (r : Specimen) : Json :=
  .object (r.entries.map fun (name, v) => (name, v.toJson))

end Herbarium.Specimen
