import Herbarium.Database.Session

/-!
Operations on tables.

An operation is a session that is run by itself: what it answers on a database, and the database after it if it changes
any.
-/

namespace Herbarium.Database

def ensure (db : Database) (schema : Schema) : Except Error Database :=
  ((Session.ensure schema).effect db).map Prod.snd

def insertRow (db : Database) (table : String) (row : Row) : Except Error (Nat × Database) :=
  (Session.insertRow table row).effect db

def schemaOf (db : Database) (table : String) : Except Error Schema := (Session.schemaOf table).answer db

def scanClause (db : Database) (table : String) (clause : Option Clause) : Except Error (List Row) :=
  (Session.scanClause table clause).answer db

def scan (db : Database) (table : String) (filters : List Filter) : Except Error (List Row) :=
  (Session.scan table filters).answer db

def deleteClause (db : Database) (table : String) (clause : Option Clause) : Except Error (Nat × Database) :=
  (Session.deleteClause table clause).effect db

def delete (db : Database) (table : String) (filters : List Filter) : Except Error (Nat × Database) :=
  (Session.delete table filters).effect db

def deleteAll (db : Database) (table : String) : Except Error (Nat × Database) := (Session.deleteAll table).effect db

end Herbarium.Database
