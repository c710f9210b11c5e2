import Herbarium.Database.Basic
import Herbarium.Sql.Fault
import Herbarium.Sql.Token

/-!
Statements.

A statement creates a table, inserts a row, reads columns or deletes rows. Its names are given as text and stand in
the statement's text as they are given. `read` finds out which action that text denotes: a statement whose names are
all plain means what it says; in any other the text is read token by token, and a name that is no name is a fault at
the first token that cannot continue the statement.
-/

namespace Herbarium.Sql

/-- A statement, with names as they were given. -/
inductive Statement where
  | create (schema : Schema)
  | insert (table : String) (columns : List String)
  | select (columns : List String) (table : String) (clause : Option Clause)
  | delete (table : String) (clause : Option Clause)

/-- The text of a clause after a blank, if there is a clause. -/
def clauseText : Option Clause → String
  | some c => " " ++ c.sql
  | none => ""

def Statement.text : Statement → String
  | create schema => schema.createSql
  | insert table [] => "INSERT INTO " ++ table ++ " DEFAULT VALUES"
  | insert table columns =>
    "INSERT INTO " ++ table ++ " (" ++ String.intercalate ", " columns ++ ") VALUES (" ++
      String.intercalate ", " (columns.map fun _ => "?") ++ ")"
  | select columns table clause =>
    "SELECT " ++ String.intercalate ", " columns ++ " FROM " ++ table ++ clauseText clause
  | delete table clause => "DELETE FROM " ++ table ++ clauseText clause

/-- A column a query asks for, and the byte it stands at. -/
structure Asked where
  name : String
  offset : Nat
  deriving DecidableEq

/-- The name of a table, and of the database it is said to be in. -/
structure TableName where
  name : String
  database : Option String := none
  deriving DecidableEq

namespace TableName

/-- The name as a report shows it. -/
def shown (t : TableName) : String :=
  match t.database with
  | some d => d ++ "." ++ t.name
  | none => t.name

/-- The names of the databases that are there. -/
def databases : List String := ["main", "temp"]

def isKnown (t : TableName) : Bool := t.database.all fun d => Text.asciiFold d ∈ databases

end TableName

/-- What a statement does, its names as they are read. -/
inductive Action where
  /-- Creates a table; the text may be at fault after some columns. -/
  | create (table : String) (columns : List StoredColumn) (rest : Option Fault)
  | insert (table : TableName) (columns : List String)
  /-- Reads rows; whether the text goes on to the statement's conditions. -/
  | select (columns : List Asked) (table : TableName) (conditioned : Bool)
  /-- Deletes rows; whether the text goes on to the statement's conditions. -/
  | delete (table : TableName) (conditioned : Bool)

/-- Whether an action's text goes on to the conditions of its statement. -/
def Action.isConditioned : Action → Bool
  | select _ _ conditioned | delete _ conditioned => conditioned
  | create _ _ _ | insert _ _ => true

/-- The declared type of a column: the empty type for a column of nothing, whose declaration is a constraint. -/
def declaredType : ColumnType → String
  | .null => ""
  | t => t.declaration

/-- The column a schema's column becomes. -/
def storedColumn (c : Column) : StoredColumn := { name := c.name, declared := declaredType c.type }

/-- Names at the bytes where they stand when a comma and a blank divide them. -/
def askedFrom (offset : Nat) : List String → List Asked
  | [] => []
  | name :: rest => { name, offset } :: askedFrom (offset + name.utf8ByteSize + 2) rest

/-- The action of a statement whose names are all plain. -/
def Statement.plain? : Statement → Option Action
  | create schema =>
    if isPlain schema.name && schema.columns.all fun c => isPlain c.name then
      some (.create schema.name (schema.columns.map storedColumn) none)
    else none
  | insert table columns =>
    if isPlain table && columns.all isPlain then some (.insert { name := table } columns) else none
  | select columns table _ =>
    if isPlain table && columns.all isPlain && !columns.isEmpty then
      some (.select (askedFrom 7 columns) { name := table } true)
    else none
  | delete table _ => if isPlain table then some (.delete { name := table } true) else none

/-! Conditions. -/

def parameterLimit : Nat := 32766

def heightLimit : Nat := 1000

/-- The height of a condition's tree. A value that is among one other takes a step more than a comparison. -/
def height (c : Condition) : Nat :=
  match c.test with
  | .among [_] => 3
  | _ => 2

/-- The operator of a condition as its text shows it. -/
def operatorText (c : Condition) : String :=
  match c.test with
  | .compare op _ => op.symbol
  | .among _ => "IN"

/-- The byte of a condition's first parameter, counted from the condition. -/
def firstParameter (c : Condition) : Nat :=
  match c.test with
  | .compare op _ => c.column.utf8ByteSize + op.symbol.utf8ByteSize + 2
  | .among _ => c.column.utf8ByteSize + 5

/-- Checks the column word of a condition at a byte. -/
def checkColumnWord (c : Condition) (offset : Nat) : Except Fault Unit :=
  if isOpening c.column then .error (.unexpected (operatorText c) (offset + c.column.utf8ByteSize + 1))
  else if isReserved c.column && Text.asciiFold c.column != "null" then .error (.unexpected c.column offset)
  else .ok ()

/-- Checks the conditions from a byte on, after a number of parameters and conditions of a height. -/
def checkConditions (offset parameters joined : Nat) : List Condition → Except Fault Unit
  | [] => .ok ()
  | c :: rest => do
    checkColumnWord c offset
    let count := c.test.operands.length
    if parameterLimit < parameters + count then
      throw (.tooManyParameters (offset + firstParameter c + 2 * (parameterLimit - parameters)))
    let joined := if joined = 0 then height c else 1 + max joined (height c)
    if heightLimit < joined then throw .tooDeep
    checkConditions (offset + c.sql.utf8ByteSize + 5) (parameters + count) joined rest

def Statement.clause? : Statement → Option Clause
  | select _ _ clause | delete _ clause => clause
  | create _ | insert _ _ => none

/-- The byte at which the conditions of a statement start. -/
def Statement.conditionsOffset (s : Statement) : Nat :=
  match s.clause? with
  | some c => s.text.utf8ByteSize - c.sql.utf8ByteSize + 6
  | none => 0

def Statement.checkClause (s : Statement) : Except Fault Unit :=
  match s.clause? with
  | some c => checkConditions s.conditionsOffset 0 0 c.conditions
  | none => .ok ()

/-! Reading names that are not plain. -/

/-- The fault of a text that cannot go on with these tokens. -/
def refusal : List Token → Fault
  | [] => .incomplete
  | t :: _ => if t.kind = .illegal then .unrecognized t.raw t.offset else .unexpected t.raw t.offset

def refuse {α : Type} (ts : List Token) : Except Fault α := .error (refusal ts)

def readName : List Token → Except Fault (String × List Token)
  | t :: rest =>
    match t.kind with
    | .word => if isReserved t.raw then refuse (t :: rest) else .ok (t.raw, rest)
    | .quoted name => .ok (name, rest)
    | _ => refuse (t :: rest)
  | [] => refuse []

def startsWith (symbol : String) : List Token → Bool
  | t :: _ => t.kind == .symbol && t.raw == symbol
  | [] => false

/-- Whether tokens start with a word, in any case. -/
def startsWithWord (word : String) : List Token → Bool
  | t :: _ => t.kind == .word && Text.asciiFold t.raw == word
  | [] => false

def readSymbol (symbol : String) (ts : List Token) : Except Fault (List Token) :=
  if startsWith symbol ts then .ok ts.tail else refuse ts

/-- Whether the statement may end here. -/
def atEnd (ts : List Token) : Bool := ts.isEmpty || startsWith ";" ts

/-- Reads a table's name, with the name of its database before it if there is one. -/
def readTable (ts : List Token) : Except Fault (TableName × List Token) := do
  let (name, rest) ← readName ts
  if startsWith "." rest then
    let (table, rest) ← readName rest.tail
    return ({ name := table, database := some name }, rest)
  else return ({ name }, rest)

/-- Reads the words of a declared type, as far as they go. -/
def readType : List Token → List String × List Token
  | t :: rest =>
    match t.kind with
    | .word =>
      if isReserved t.raw then ([], t :: rest)
      else let (words, rest) := readType rest; (t.raw :: words, rest)
    | .quoted _ => let (words, rest) := readType rest; (t.raw :: words, rest)
    | _ => ([], t :: rest)
  | [] => ([], [])

/-- Drops the constraints of a column that need no more than their words. -/
def skipConstraints : Nat → List Token → List Token
  | 0, ts => ts
  | fuel + 1, ts =>
    if startsWithWord "null" ts || startsWithWord "unique" ts then skipConstraints fuel ts.tail
    else if startsWithWord "not" ts && startsWithWord "null" ts.tail then skipConstraints fuel ts.tail.tail
    else ts

/-- The words that continue a column after its type. -/
def columnWords : List String :=
  ["as", "check", "collate", "constraint", "default", "deferrable", "not", "null", "primary", "references", "unique"]

/-- Whether a column is complete before the first of the tokens after its name and type is looked at. -/
def completesColumn (ts : List Token) : Bool :=
  startsWith "," ts || startsWith ")" ts || columnWords.any fun w => startsWithWord w ts

/-- Reads the columns of a new table up to the closing parenthesis and the end of the statement: the columns, last
first, and the fault after them if there is one. A column that a fault follows at once is not among them. -/
def readColumns (first : Bool) : Nat → List StoredColumn → List Token → List StoredColumn × Option Fault
  | 0, read, _ => (read, some .incomplete)
  | fuel + 1, read, ts =>
    if !first && constraintWords.any fun w => startsWithWord w ts then (read, some (refusal ts.tail))
    else if !first && startsWithWord "constraint" ts then
      match readName ts.tail with
      | .error f => (read, some f)
      | .ok (_, rest) =>
        if startsWith ")" rest then (read, none)
        else if startsWith "," rest then (read, some (refusal rest.tail)) else (read, some (refusal rest))
    else match readName ts with
      | .error f => (read, some f)
      | .ok (name, rest) =>
        let (words, rest) := readType rest
        let read := if completesColumn rest then { name, declared := String.intercalate " " words } :: read else read
        let rest := skipConstraints rest.length rest
        if startsWith "," rest then readColumns false fuel read rest.tail
        else if startsWith ")" rest then
          if atEnd rest.tail then (read, none) else (read, some (refusal rest.tail))
        else (read, some (refusal rest))

/-- Whether a table's name is set aside for the database. -/
def isReservedTable (name : String) : Bool :=
  "sqlite_".toList.isPrefixOf (Text.asciiFold name).toList

def readCreate (ts : List Token) : Except Fault Action := do
  let (table, rest) ← readTable ts
  let rest ← readSymbol "(" rest
  if !table.isKnown then
    let first := ts.head?
    throw (.unknownDatabase ((first.map Token.raw).getD "") ((first.map Token.offset).getD 0))
  if isReservedTable table.name then throw (.reservedName table.name)
  let (columns, fault) := readColumns true rest.length [] rest
  return .create table.name columns.reverse fault

/-- Reads names between commas up to the closing parenthesis. -/
def readNames : Nat → List String → List Token → Except Fault (List String × List Token)
  | 0, _, ts => refuse ts
  | fuel + 1, read, ts => do
    let (name, rest) ← readName ts
    if startsWith "," rest then readNames fuel (name :: read) rest.tail
    else return ((name :: read).reverse, ← readSymbol ")" rest)

/-- Reads the text of a statement that inserts a row, of values or of none. -/
def readInsert (hasValues : Bool) (ts : List Token) : Except Fault Action := do
  let (table, rest) ← readTable ts
  if !hasValues then
    if startsWithWord "default" rest then return .insert table [] else refuse rest
  else
    let rest ← readSymbol "(" rest
    let (columns, rest) ← readNames rest.length [] rest
    if startsWithWord "values" rest then return .insert table columns else refuse rest

/-- Reads one column of a query and its other name, if it has one. -/
def readAsked (ts : List Token) : Except Fault (Asked × List Token) := do
  match ts with
  | [] => refuse []
  | t :: rest => do
    let asked ← match t.kind with
      | .word =>
        if isOpening t.raw then refuse rest
        else if isReserved t.raw && Text.asciiFold t.raw != "null" then refuse (t :: rest)
        else pure { name := t.raw, offset := t.offset : Asked }
      | .quoted name => pure { name, offset := t.offset }
      | .number => pure { name := t.raw, offset := t.offset }
      | _ => refuse (t :: rest)
    let rest := if startsWithWord "as" rest then rest.tail else rest
    match readName rest with
    | .ok (_, rest) => return (asked, rest)
    | .error _ => return (asked, rest)

/-- Reads the columns of a query up to the word before its table. -/
def readQuery : Nat → List Asked → List Token → Except Fault (List Asked × List Token)
  | 0, _, ts => refuse ts
  | fuel + 1, read, ts => do
    let (asked, rest) ← readAsked ts
    if startsWith "," rest then readQuery fuel (asked :: read) rest.tail
    else if startsWithWord "from" rest then return ((asked :: read).reverse, rest.tail)
    else refuse rest

/-- Drops another name of a table. -/
def skipAlias (ts : List Token) : List Token :=
  let rest := if startsWithWord "as" ts then ts.tail else ts
  match readName rest with
  | .ok (_, rest) => rest
  | .error _ => ts

/-- Whether a statement goes on with its conditions; else it must end. -/
def readTail (ts : List Token) : Except Fault Bool :=
  if startsWithWord "where" ts then .ok true
  else if atEnd ts then .ok false else refuse ts

def readSelect (ts : List Token) : Except Fault Action := do
  let ts := if quantifierWords.any fun w => startsWithWord w ts then ts.tail else ts
  let (columns, rest) ← readQuery ts.length [] ts
  let (table, rest) ← readTable rest
  return .select columns table (← readTail (skipAlias rest))

def readDelete (ts : List Token) : Except Fault Action := do
  let (table, rest) ← readTable ts
  return .delete table (← readTail rest)

def Statement.readText (s : Statement) : Except Fault Action :=
  let ts := tokens s.text
  match s with
  | create _ => readCreate (ts.drop 5)
  | insert _ columns => readInsert (!columns.isEmpty) (ts.drop 2)
  | select _ _ _ => readSelect (ts.drop 1)
  | delete _ _ => readDelete (ts.drop 2)

/-- The action of a statement. -/
def Statement.read (s : Statement) : Except Fault Action := do
  let action ← match s.plain? with
    | some action => pure action
    | none => s.readText
  if action.isConditioned then s.checkClause
  return action

end Herbarium.Sql
