/-!
What a statement fails of.

Faults of the text carry the byte at which they were found, and their report quotes the statement; faults of meaning
name what they are about.
-/

namespace Herbarium.Sql

/-- What a statement fails of. -/
inductive Fault where
  /-- A token out of place. -/
  | unexpected (token : String) (offset : Nat)
  /-- Characters that are no token. -/
  | unrecognized (token : String) (offset : Nat)
  /-- A column a condition or query names and the table does not have. -/
  | noSuchColumn (name : String) (offset : Nat)
  /-- More parameters than a statement may have. -/
  | tooManyParameters (offset : Nat)
  /-- Values for parameters a statement does not have. -/
  | parameterCount (given : Nat)
  /-- A statement that ends too soon. -/
  | incomplete
  /-- More conditions than may be joined. -/
  | tooDeep
  | noSuchTable (name : String)
  | noColumnNamed (table column : String)
  | valueCount (values columns : Nat)
  /-- A table name set aside for the database itself. -/
  | reservedName (name : String)
  /-- A column name given twice, regardless of case. -/
  | duplicateColumn (name : String)
  | tooManyColumns (table : String)
  /-- A table whose stored definition does not read back. -/
  | malformedSchema (table token : String)
  /-- A database name that is not known. -/
  | unknownDatabase (name : String) (offset : Nat)
  /-- A table of the database itself, which no statement changes. -/
  | notModifiable (table : String)
  /-- A change of a database that can only be read. -/
  | readOnly
  /-- A row number that is no integer. -/
  | datatypeMismatch
  /-- A row number in use. -/
  | numberTaken (table : String)
  /-- A table asked for by name and not there. -/
  | missingTable (name : String)
  deriving DecidableEq

namespace Fault

/-- A report with the statement and the place. -/
def located (report statement : String) (offset : Nat) : String :=
  report ++ " in " ++ statement ++ s!" at offset {offset}"

def message (f : Fault) (statement : String) : String :=
  match f with
  | unexpected token offset => located s!"near \"{token}\": syntax error" statement offset
  | unrecognized token offset => located s!"unrecognized token: \"{token}\"" statement offset
  | noSuchColumn name offset => located s!"no such column: {name}" statement offset
  | tooManyParameters offset => located "too many SQL variables" statement offset
  | parameterCount given => s!"Wrong number of parameters passed to query. Got {given}, needed 0"
  | incomplete => "incomplete input"
  | tooDeep => "Expression tree is too large (maximum depth 1000)"
  | noSuchTable name => s!"no such table: {name}"
  | noColumnNamed table column => s!"table {table} has no column named {column}"
  | valueCount values columns => s!"{values} values for {columns} columns"
  | reservedName name => s!"object name reserved for internal use: {name}"
  | duplicateColumn name => s!"duplicate column name: {name}"
  | tooManyColumns table => s!"too many columns on {table}"
  | malformedSchema table token => s!"malformed database schema ({table}) - near \"{token}\": syntax error"
  | unknownDatabase name offset => located s!"unknown database {name}" statement offset
  | notModifiable table => s!"table {table} may not be modified"
  | readOnly => "attempt to write a readonly database"
  | datatypeMismatch => "datatype mismatch"
  | numberTaken table => s!"UNIQUE constraint failed: {table}.rowid"
  | missingTable name => s!"table {name} does not exist"

end Fault

end Herbarium.Sql
