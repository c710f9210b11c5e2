import Herbarium.Database.Execute
import Herbarium.Error

/-!
Sessions on a database.

What a service does with a database: make sure that a table exists, insert rows, read and delete rows by filters, ask
for the columns of a table. Each of these is a `Session`. It runs on one database, which it changes step by step, and
may stop with an error; what it changed until then stays changed. A single statement takes effect as a whole or not at
all (`execute`). Filters are compiled before the database is touched. Reading without filters gives all rows, deleting
without filters removes none.
-/

namespace Herbarium.Database

open Sql (Fault Statement)

/-- The report of a fault of a statement. -/
def operationError (f : Fault) (statement : String) : Error := .operation (f.message statement)

def compileFilters (filters : List Filter) : Except Error (Option Clause) :=
  (Clause.compile filters).mapError fun f => .parse f.message

/-- The columns of a table, none if it does not exist. -/
def tableColumns (db : Database) (table : String) : List Column :=
  (db.columns table).map fun c => { name := c.name, type := .ofDeclaration c.declared }

/-- The schema of a table, under the name asked for. -/
def schema? (db : Database) (table : String) : Option Schema :=
  match db.tableColumns table with
  | [] => none
  | columns => some { name := table, columns }

/-- Values as the columns of a schema read them. -/
def readRow (columns : List Column) (values : List Value) : Row :=
  (columns.zip values).map fun (c, v) => (c.name, v.cast c.type)

/-- Steps on a database, any of which may stop the rest. -/
abbrev Session := ExceptT Error (StateM Database)

namespace Session

variable {α : Type}

/-- The outcome of a session, and the database after it. -/
def on (s : Session α) (db : Database) : Except Error α × Database := StateT.run (ExceptT.run s) db

/-- What a session answers. -/
def answer (s : Session α) (db : Database) : Except Error α := (s.on db).1

/-- What a session answers, and the database after it unless it failed. -/
def effect (s : Session α) (db : Database) : Except Error (α × Database) := (s.answer db).map fun a => (a, (s.on db).2)

/-- Runs a statement that may change the database. -/
def execute (statement : Database → Except Error (α × Database)) : Session α := do
  let (a, db) ← MonadExcept.ofExcept (statement (← get))
  set db
  return a

/-- Runs a statement that only reads the database. -/
def query (statement : Database → Except Error α) : Session α := do
  MonadExcept.ofExcept (statement (← get))

/-- Makes sure that a table exists: checks its schema and creates it unless there is one of its name. -/
def ensure (schema : Schema) : Session Unit := do
  MonadExcept.ofExcept (schema.check.mapError fun f => Error.internal f.message)
  execute fun db => do
    let db ← (db.runCreate schema).mapError fun f => operationError f schema.createSql
    return ((), db)

/-- Inserts a row: how many rows were inserted. -/
def insertRow (table : String) (row : Row) : Session Nat :=
  execute fun db => do
    let db ← (db.runInsert table row).mapError fun f =>
      operationError f (Statement.insert table (row.map Prod.fst)).text
    return (1, db)

def tableColumns (table : String) : Session (List Column) := query fun db => return db.tableColumns table

def schema? (table : String) : Session (Option Schema) := query fun db => return db.schema? table

/-- The schema of a table that must exist. -/
def schemaOf (table : String) : Session Schema := do
  match ← schema? table with
  | some s => return s
  | none => throw (operationError (.missingTable table) "")

/-- The rows of a table for which a clause holds, all rows without one. -/
def scanClause (table : String) (clause : Option Clause) : Session (List Row) := do
  let s ← schemaOf table
  let names := s.columns.map Column.name
  let rows ← query fun db => (db.runSelect names table clause).mapError fun f =>
    operationError f (Statement.select names table clause).text
  return rows.map (readRow s.columns)

/-- The rows of a table that pass all filters. -/
def scan (table : String) (filters : List Filter) : Session (List Row) := do
  scanClause table (← MonadExcept.ofExcept (compileFilters filters))

/-- Deletes the rows of a table for which a clause holds, all rows without one. -/
def deleteClause (table : String) (clause : Option Clause) : Session Nat :=
  execute fun db => (db.runDelete table clause).mapError fun f =>
    operationError f (Statement.delete table clause).text

/-- Deletes the rows of a table that pass all filters; without filters nothing is deleted. -/
def delete (table : String) (filters : List Filter) : Session Nat := do
  match ← MonadExcept.ofExcept (compileFilters filters) with
  | some clause => deleteClause table (some clause)
  | none => return 0

def deleteAll (table : String) : Session Nat := deleteClause table none

end Session

end Herbarium.Database
