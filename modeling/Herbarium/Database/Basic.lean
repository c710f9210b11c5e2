import Herbarium.Database.Comparison
import Herbarium.Schema

/-!
Databases.

A database is a list of tables, a table its columns and rows, a row its number and one cell per column. One more table
lists the others and is read only. Names of tables and columns are found regardless of the case of ASCII letters. Rows
are kept with falling numbers, the newest first, and read in rising order. A new row gets the number after the largest
one unless it names one itself. The largest number there can be is only had by a row that names it; once it is in use,
new rows get free numbers below it.
-/

namespace Herbarium

/-- A column as a table declares it; the declared type may be empty. -/
structure StoredColumn where
  name : String
  declared : String
  deriving DecidableEq

def StoredColumn.affinity (c : StoredColumn) : Affinity := .ofDeclared c.declared

/-- A row: its number and its cells, in the order of the columns. -/
structure StoredRow where
  number : Int
  cells : List Value
  deriving DecidableEq

structure Table where
  name : String
  /-- The statement that would create it. -/
  definition : String
  columns : List StoredColumn
  /-- The rows, by falling numbers. -/
  rows : List StoredRow
  deriving DecidableEq

structure Database where
  tables : List Table
  /-- Whether it can be changed. -/
  writable : Bool := true
  deriving DecidableEq

namespace Table

/-- The rows in the order in which they are read. -/
def scan (t : Table) : List StoredRow := t.rows.reverse

/-- The largest number a row can name. -/
def largestNumber : Int := 0x7FFFFFFFFFFFFFFF

/-- The first number that no row has, from a quarter of the largest one on. -/
def freeNumber (t : Table) : Int :=
  t.scan.foldl (fun n r => if r.number = n then n + 1 else n) 0x2000000000000000

/-- The number a new row gets. -/
def nextNumber (t : Table) : Int :=
  match t.rows with
  | [] => 1
  | r :: _ =>
    if r.number = largestNumber then t.freeNumber
    else if r.number + 1 = largestNumber then largestNumber + 1
    else r.number + 1

/-- Puts a row in its place among rows of falling numbers. -/
def insertSorted (row : StoredRow) : List StoredRow → List StoredRow
  | [] => [row]
  | r :: rest => if r.number < row.number then row :: r :: rest else r :: insertSorted row rest

def insert (t : Table) (row : StoredRow) : Table :=
  { t with rows := insertSorted row t.rows }

/-- The table without the rows of a kind. -/
def erase (t : Table) (p : StoredRow → Bool) : Table :=
  { t with rows := t.rows.filter fun r => !p r }

end Table

namespace Database

def empty : Database := { tables := [] }

/-- The names of the table of tables. -/
def catalogueNames : List String := ["sqlite_master", "sqlite_schema"]

def isCatalogue (name : String) : Bool := Text.asciiFold name ∈ catalogueNames

/-- The row of the table of tables for a table, which is the one after `i` others. -/
def catalogueRow (t : Table) (i : Nat) : StoredRow :=
  { number := i + 1,
    cells := [.text "table", .text t.name, .text t.name, .int (Int64.ofInt (i + 2)), .text t.definition] }

/-- The table of tables. -/
def catalogue (db : Database) : Table :=
  { name := "sqlite_master", definition := "",
    columns := [⟨"type", "TEXT"⟩, ⟨"name", "TEXT"⟩, ⟨"tbl_name", "TEXT"⟩, ⟨"rootpage", "INT"⟩, ⟨"sql", "TEXT"⟩],
    rows := (db.tables.zipIdx.map fun (t, i) => catalogueRow t i).reverse }

def find? (db : Database) (name : String) : Option Table :=
  if isCatalogue name then some db.catalogue
  else db.tables.find? fun t => Text.sameFolded t.name name

def add (db : Database) (t : Table) : Database :=
  { db with tables := db.tables ++ [t] }

/-- The database with a table of a name changed. -/
def modify (db : Database) (name : String) (f : Table → Table) : Database :=
  { db with tables := db.tables.map fun t => if Text.sameFolded t.name name then f t else t }

/-- The declared columns of a table, none if there is no such table. -/
def columns (db : Database) (name : String) : List StoredColumn :=
  match db.find? name with
  | some t => t.columns
  | none => []

end Database

end Herbarium
