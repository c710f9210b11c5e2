import Herbarium.Value.Basic

/-!
Table schemas.

A schema is a table's name and its columns. `check` refuses a schema without columns and one that names a column
twice, letter for letter; `createSql` is the statement that creates the table.
-/

namespace Herbarium

structure Column where
  name : String
  type : ColumnType
  deriving DecidableEq

/-- A table's name and columns. -/
structure Schema where
  name : String
  columns : List Column
  deriving DecidableEq

namespace Schema

/-- What is wrong with a schema. -/
inductive Fault where
  | noColumns (table : String)
  | duplicateColumn (column table : String)
  deriving DecidableEq

def Fault.message : Fault → String
  | .noColumns table => s!"table {table} has no columns"
  | .duplicateColumn column table => s!"duplicate column {column} in table {table}"

/-- The first name that occurred before, given the names already seen. -/
def firstRepeat (seen : List String) : List String → Option String
  | [] => none
  | name :: rest => if name ∈ seen then some name else firstRepeat (name :: seen) rest

/-- Checks that there are columns and that their names differ. -/
def check (s : Schema) : Except Fault Unit :=
  if s.columns.isEmpty then .error (.noColumns s.name)
  else match firstRepeat [] (s.columns.map Column.name) with
    | some column => .error (.duplicateColumn column s.name)
    | none => .ok ()

/-- A column as the statement declares it. -/
def columnSql (c : Column) : String := c.name ++ " " ++ c.type.declaration

/-- The table's name and columns as a statement that creates it ends. -/
def outline (s : Schema) : String :=
  s.name ++ " (" ++ String.intercalate ", " (s.columns.map columnSql) ++ ")"

/-- The statement that creates the table. -/
def definition (s : Schema) : String := "CREATE TABLE " ++ s.outline

/-- The statement that creates the table unless it exists. -/
def createSql (s : Schema) : String := "CREATE TABLE IF NOT EXISTS " ++ s.outline

end Schema

end Herbarium
