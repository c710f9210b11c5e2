import Herbarium.Database.Operations
import Herbarium.Specimen.Load
import Herbarium.Summary

/-!
The store of specimens.

Specimens are kept in one table of a database. `select` reads them back in the order in which they were inserted; they
are what the store holds, and every operation is an operation on that list. Inserting unique specimens leaves out those
already stored and takes each of the others once. Specimens are inserted one by one, so an insertion that fails leaves
those before in the database.
-/

namespace Herbarium

/-- A database with the table of specimens. -/
structure Store where
  database : Database
  deriving DecidableEq

namespace Store

def readRow (row : Row) : Except Error Specimen :=
  ((Specimen.ofFields row).map Specimen.Reading.specimen).mapError Specimen.Fault.toError

/-- The specimens not seen before, each once. -/
def unseen (seen : List Specimen) : List Specimen → List Specimen
  | [] => []
  | r :: rest => if r ∈ seen then unseen seen rest else r :: unseen (r :: seen) rest

namespace Session

open Database (Session)

/-- Creates the table of specimens if it does not exist. -/
def ensure : Session Unit := Database.Session.ensure Specimen.schema

/-- The specimens that pass all filters. -/
def select (filters : List Filter) : Session (List Specimen) := do
  let rows ← Database.Session.scan Specimen.tableName filters
  MonadExcept.ofExcept (rows.mapM readRow)

def insertOne (r : Specimen) : Session Nat := Database.Session.insertRow Specimen.tableName r.entries

/-- Inserts specimens one after the other, counting on from a number. -/
def insertAll (count : Nat) : List Specimen → Session Nat
  | [] => return count
  | r :: rest => do
    let n ← insertOne r
    insertAll (count + n) rest

/-- Inserts specimens, all of them or only those not stored yet. -/
def insert (records : List Specimen) (unique : Bool) : Session Nat := do
  if unique then insertAll 0 (unseen (← select []) records) else insertAll 0 records

/-- Deletes the specimens that pass all filters; without filters none. -/
def delete (filters : List Filter) : Session Nat := Database.Session.delete Specimen.tableName filters

def deleteAll : Session Nat := Database.Session.deleteAll Specimen.tableName

def summary : Session Summary := do
  return Summary.ofRecords (← select [])

def count : Session Nat := do
  return (← Database.Session.scan Specimen.tableName []).length

/-- Runs a session once there is a table of specimens. -/
def opened {α : Type} (run : Session α) : Session α := do
  ensure
  run

end Session

/-- What a session counts, and the store after it unless it failed. -/
def effect (s : Store) (session : Database.Session Nat) : Except Error (Nat × Store) :=
  (session.effect s.database).map fun (n, db) => (n, { database := db })

/-- The store in a database; the table is created if it does not exist. -/
def ofDatabase (db : Database) : Except Error Store := do
  return { database := ← db.ensure Specimen.schema }

def select (s : Store) (filters : List Filter) : Except Error (List Specimen) :=
  (Session.select filters).answer s.database

def insertOne (s : Store) (r : Specimen) : Except Error (Nat × Store) := s.effect (Session.insertOne r)

def insertAll (s : Store) (count : Nat) (records : List Specimen) : Except Error (Nat × Store) :=
  s.effect (Session.insertAll count records)

def insert (s : Store) (records : List Specimen) (unique : Bool) : Except Error (Nat × Store) :=
  s.effect (Session.insert records unique)

def delete (s : Store) (filters : List Filter) : Except Error (Nat × Store) := s.effect (Session.delete filters)

def deleteAll (s : Store) : Except Error (Nat × Store) := s.effect Session.deleteAll

def summary (s : Store) : Except Error Summary := Session.summary.answer s.database

def count (s : Store) : Except Error Nat := Session.count.answer s.database

end Store

end Herbarium
