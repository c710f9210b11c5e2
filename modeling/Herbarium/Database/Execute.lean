import Herbarium.Sql.Statement

/-!
Running statements.

A statement is read, its names are looked up in the database, and then it takes effect as a whole or fails and leaves
the database as it was. A name in a condition is a column regardless of case, else the number of the row, else a truth
value; digits are a number. The rows of a query and the rows a deletion removes are those for which all conditions
hold.
-/

namespace Herbarium

open Sql (Fault Action Statement Asked)

/-- What a name in a condition or query stands for. -/
inductive Operand where
  /-- The cell of a column, by the column's place. -/
  | cell (index : Nat) (affinity : Affinity)
  /-- The number of the row. -/
  | number
  | constant (v : Value)
  deriving DecidableEq

namespace Operand

def value (o : Operand) (r : StoredRow) : Value :=
  match o with
  | cell i _ => (r.cells[i]?).getD .null
  | number => .int (Int64.ofInt r.number)
  | constant v => v

/-- The affinity an operand brings to a comparison. -/
def affinity : Operand → Affinity
  | cell _ a => a
  | number => .integer
  | constant _ => .none

end Operand

/-- A condition whose column was looked up. -/
structure BoundCondition where
  operand : Operand
  test : Test
  deriving DecidableEq

def BoundCondition.holds (c : BoundCondition) (r : StoredRow) : Bool :=
  c.test.holds c.operand.affinity (c.operand.value r)

/-- The names of a row's number. -/
def rowNumberNames : List String := ["rowid", "oid", "_rowid_"]

/-- What a clock word reads. -/
def clockText (word : String) : String :=
  if word = "current_date" then "2000-01-01"
  else if word = "current_time" then "00:00:00"
  else "2000-01-01 00:00:00"

def literalValue (digits : List Char) : Value :=
  let n := Decimal.valueOfDigits digits
  (Value.int? n).getD (.real (Binary64.ofInt n))

namespace Table

def columnIndex? (t : Table) (name : String) : Option Nat :=
  t.columns.findIdx? fun c => Text.sameFolded c.name name

/-- The operand of a column, if the table has it. -/
def cell? (t : Table) (name : String) : Option Operand := do
  let i ← t.columnIndex? name
  let c ← t.columns[i]?
  return .cell i c.affinity

def operand? (t : Table) (name : String) : Option Operand :=
  let word := Text.asciiFold name
  if Clause.isLiteral name.toList then some (.constant (literalValue name.toList))
  else if word = "null" then some (.constant .null)
  else if Sql.isClock name then some (.constant (.text (clockText word)))
  else match t.cell? name with
    | some o => some o
    | none =>
      if word ∈ rowNumberNames then some .number
      else if word = "true" then some (.constant (.int 1))
      else if word = "false" then some (.constant (.int 0))
      else none

/-- Looks up a name that stands at a byte. -/
def lookUp (t : Table) (name : String) (offset : Nat) : Except Fault Operand :=
  match t.operand? name with
  | some o => .ok o
  | none => .error (.noSuchColumn name offset)

/-- Looks up the columns of conditions, the first of which stands at a byte. -/
def bindConditions (t : Table) (offset : Nat) : List Condition → Except Fault (List BoundCondition)
  | [] => .ok []
  | c :: rest => do
    let operand ← t.lookUp c.column offset
    let others ← t.bindConditions (offset + c.sql.utf8ByteSize + 5) rest
    return { operand, test := c.test } :: others

/-- The conditions of a statement, none if it has no clause. A clause that its text does not go on to leaves values
for which there are no parameters. -/
def bindClause (t : Table) (s : Statement) (conditioned : Bool) : Except Fault (List BoundCondition) :=
  match s.clause? with
  | some c =>
    if conditioned then t.bindConditions s.conditionsOffset c.conditions
    else .error (.parameterCount c.params.length)
  | none => .ok []

end Table

def allHold (conditions : List BoundCondition) (r : StoredRow) : Bool :=
  conditions.all fun c => c.holds r

/-! Creating tables. -/

def columnLimit : Nat := 2000

/-- Checks the columns of a new table from the left: their number and that no name occurs twice, regardless of
case. -/
def checkColumns (table : String) (seen : List String) : List StoredColumn → Except Fault Unit
  | [] => .ok ()
  | c :: rest =>
    if columnLimit ≤ seen.length then .error (.tooManyColumns table)
    else if Text.asciiFold c.name ∈ seen then .error (.duplicateColumn c.name)
    else checkColumns table (Text.asciiFold c.name :: seen) rest

/-- The fault of an action whose text goes wrong after what was read. -/
def checkRest : Option Fault → Except Fault Unit
  | some f => .error f
  | none => .ok ()

namespace Database

def checkWritable (db : Database) : Except Fault Unit :=
  if db.writable then .ok () else .error .readOnly

/-- Creates a table by its definition unless there is one of its name. -/
def create (db : Database) (definition table : String) (columns : List StoredColumn) (rest : Option Fault) :
    Except Fault Database := do
  if Sql.isReservedTable table then throw (.reservedName table)
  match db.find? table with
  | some _ =>
    checkRest rest
    return db
  | none =>
    checkColumns table [] columns
    checkRest rest
    db.checkWritable
    if Text.asciiFold table = "if" then throw (.malformedSchema table "(")
    return db.add { name := table, definition, columns, rows := [] }

/-- The table of a name, or the fault that there is none. -/
def table (db : Database) (name : Sql.TableName) : Except Fault Table :=
  match if name.isKnown then db.find? name.name else none with
  | some t => .ok t
  | none => .error (.noSuchTable name.shown)

/-- The table of a name, or the fault that there is none to change. -/
def changeable (db : Database) (name : Sql.TableName) : Except Fault Table := do
  let t ← db.table name
  if isCatalogue name.name then throw (.notModifiable t.name)
  return t

end Database

/-! Inserting rows. -/

/-- Where a value of a new row goes. -/
inductive Target where
  | cell (index : Nat)
  | number
  deriving DecidableEq

namespace Table

/-- Where the value of a named column goes; `given` is the table's name in the statement. -/
def target (t : Table) (given name : String) : Except Fault Target :=
  match t.columnIndex? name with
  | some i => .ok (.cell i)
  | none =>
    if Text.asciiFold name ∈ rowNumberNames then .ok .number else .error (.noColumnNamed given name)

/-- The cell of a column in a new row: the first value that goes there, converted by the column's affinity. -/
def newCell (assignments : List (Target × Value)) (index : Nat) (c : StoredColumn) : Value :=
  match assignments.find? fun a => a.1 == .cell index with
  | some a => a.2.bind.store c.affinity
  | none => .null

/-- The number of a new row: the last value that goes there if it is an integer not in use, a new one if it is
nothing. -/
def newNumber (t : Table) (assignments : List (Target × Value)) : Except Fault Int :=
  match ((assignments.filter fun a => a.1 == .number).getLast?.map fun a => a.2.bind.store .integer).getD .null with
  | .null => .ok t.nextNumber
  | .int n => if t.rows.any fun r => r.number == n.toInt then .error (.numberTaken t.name) else .ok n.toInt
  | .real _ | .text _ => .error .datatypeMismatch

def insertRow (t : Table) (assignments : List (Target × Value)) : Except Fault Table := do
  let number ← t.newNumber assignments
  let cells := t.columns.zipIdx.map fun (c, i) => newCell assignments i c
  return t.insert { number, cells }

end Table

namespace Database

/-- Inserts a row of values for named columns. -/
def insert (db : Database) (table : Sql.TableName) (columns : List String) (values : List Value) :
    Except Fault Database := do
  let t ← db.changeable table
  let targets ← columns.mapM fun name => t.target table.shown name
  if columns.length ≠ values.length then throw (.valueCount values.length columns.length)
  db.checkWritable
  let t' ← t.insertRow (targets.zip values)
  return db.modify table.name fun _ => t'

/-! Statements. -/

def runCreate (db : Database) (schema : Schema) : Except Fault Database := do
  match ← (Statement.create schema).read with
  | .create table columns rest => db.create schema.definition table columns rest
  | .insert _ _ | .select _ _ _ | .delete _ _ => return db

def runInsert (db : Database) (table : String) (row : Row) : Except Fault Database := do
  let s := Statement.insert table (row.map Prod.fst)
  match ← s.read with
  | .insert table columns =>
    let limit := Sql.parameterLimit
    if limit < row.length then
      let before := s.text.utf8ByteSize - 1 - (3 * row.length - 2)
      throw (.tooManyParameters (before + 3 * limit))
    db.insert table columns (row.map Prod.snd)
  | .create _ _ _ | .select _ _ _ | .delete _ _ => return db

/-- Runs a query: the values asked for, of every row for which the conditions hold, in the order of the rows. -/
def runSelect (db : Database) (columns : List String) (table : String) (clause : Option Clause) :
    Except Fault (List (List Value)) := do
  let s := Statement.select columns table clause
  match ← s.read with
  | .select asked table conditioned =>
    let t ← db.table table
    let operands ← asked.mapM fun a => t.lookUp a.name a.offset
    let conditions ← t.bindClause s conditioned
    return (t.scan.filter (allHold conditions)).map fun r => operands.map fun o => o.value r
  | .create _ _ _ | .insert _ _ | .delete _ _ => return []

/-- Runs a deletion: how many rows were removed, and what is left. -/
def runDelete (db : Database) (table : String) (clause : Option Clause) : Except Fault (Nat × Database) := do
  let s := Statement.delete table clause
  match ← s.read with
  | .delete table conditioned =>
    let t ← db.changeable table
    let conditions ← t.bindClause s conditioned
    db.checkWritable
    return ((t.rows.filter (allHold conditions)).length, db.modify table.name fun t => t.erase (allHold conditions))
  | .create _ _ _ | .insert _ _ | .select _ _ _ => return (0, db)

end Database

end Herbarium
