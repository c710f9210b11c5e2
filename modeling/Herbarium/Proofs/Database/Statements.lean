import Herbarium.Database.Execute
import Herbarium.Proofs.Outcome

/-!
Statements on a table of a plain name.

A statement whose names are all plain means what it says, so its text plays no part: what is left of running it is the
check of its conditions, the look-up of its names in the table, and the effect. The equations `runInsert_plain`,
`runSelect_plain` and `runDelete_plain` say so for a table that is there and can be changed; `runInsert_checked` and
`runDelete_checked` for one that perhaps cannot.
-/

namespace Herbarium

open Outcome
open Sql (Statement)

namespace Sql.Statement

theorem read_insert {table : String} {columns : List String} (ht : isPlain table = true)
    (hc : columns.all isPlain = true) :
    (insert table columns).read = .ok (.insert { name := table } columns) := by
  simp [read, plain?, ht, hc, Action.isConditioned, checkClause, clause?]

theorem read_select {table : String} {columns : List String} (clause : Option Clause) (ht : isPlain table = true)
    (hc : columns.all isPlain = true) (hne : columns ≠ []) :
    (select columns table clause).read = (do
      (select columns table clause).checkClause
      return .select (askedFrom 7 columns) { name := table } true) := by
  have hplain : (select columns table clause).plain? = some (.select (askedFrom 7 columns) { name := table } true) := by
    simp only [plain?, ht, hc, Bool.true_and, List.isEmpty_eq_false_iff.mpr hne, Bool.not_false, if_true]
  simp [read, hplain, Action.isConditioned]

theorem read_delete {table : String} (clause : Option Clause) (ht : isPlain table = true) :
    (delete table clause).read = (do
      (delete table clause).checkClause
      return .delete { name := table } true) := by
  simp [read, plain?, ht, Action.isConditioned]

end Sql.Statement

namespace Database

variable {db : Database} {t : Table} {name : String}

theorem table_plain (hf : db.find? name = some t) : db.table { name } = .ok t := by
  simp [table, Sql.TableName.isKnown, hf]

theorem changeable_plain (hf : db.find? name = some t) (hc : isCatalogue name = false) :
    db.changeable { name } = .ok t := by
  simp [changeable, table_plain hf, hc]

theorem checkWritable_ok (hw : db.writable = true) : db.checkWritable = .ok () := by
  simp [checkWritable, hw]

theorem writable_of_check (h : db.checkWritable = .ok ()) : db.writable = true := by
  rw [checkWritable] at h
  split at h
  · assumption
  · cases h

/-- A changed table is found by its name as before, if no change gives another name. -/
theorem find?_modify {f : Table → Table} (hf : db.find? name = some t) (hc : isCatalogue name = false)
    (hname : ∀ t, Text.sameFolded t.name name = true → Text.sameFolded (f t).name name = true) :
    (db.modify name f).find? name = some (f t) := by
  rw [find?, hc] at hf ⊢
  simp only [Bool.false_eq_true, if_false] at hf ⊢
  have hsame : Text.sameFolded t.name name = true := by simpa using List.find?_some hf
  -- a table is found among the changed ones exactly where it was found before
  have hfound : (fun t => Text.sameFolded t.name name) ∘
      (fun t => if Text.sameFolded t.name name then f t else t) = fun t => Text.sameFolded t.name name := by
    funext t'
    by_cases h : Text.sameFolded t'.name name = true
    · simp [h, hname t' h]
    · simp [h]
  rw [modify, List.find?_map, hfound, hf, Option.map_some, if_pos hsame]

theorem runInsert_checked (row : Row) (ht : Sql.isPlain name = true) (hr : (row.map Prod.fst).all Sql.isPlain = true)
    (hf : db.find? name = some t) (hc : isCatalogue name = false) (hl : row.length ≤ Sql.parameterLimit) :
    db.runInsert name row = (do
      let targets ← (row.map Prod.fst).mapM fun column => t.target name column
      db.checkWritable
      let t' ← t.insertRow (targets.zip (row.map Prod.snd))
      return db.modify name fun _ => t') := by
  simp [runInsert, Statement.read_insert ht hr, Nat.not_lt.mpr hl, insert, changeable_plain hf hc,
    Sql.TableName.shown]

theorem runInsert_plain (row : Row) (ht : Sql.isPlain name = true) (hr : (row.map Prod.fst).all Sql.isPlain = true)
    (hf : db.find? name = some t) (hc : isCatalogue name = false) (hw : db.writable = true)
    (hl : row.length ≤ Sql.parameterLimit) :
    db.runInsert name row = (do
      let targets ← (row.map Prod.fst).mapM fun column => t.target name column
      let t' ← t.insertRow (targets.zip (row.map Prod.snd))
      return db.modify name fun _ => t') := by
  simp [runInsert_checked row ht hr hf hc hl, checkWritable_ok hw]

theorem runSelect_plain {columns : List String} (clause : Option Clause) (ht : Sql.isPlain name = true)
    (hcs : columns.all Sql.isPlain = true) (hne : columns ≠ []) (hf : db.find? name = some t) :
    db.runSelect columns name clause = (do
      (Statement.select columns name clause).checkClause
      let operands ← (Sql.askedFrom 7 columns).mapM fun a => t.lookUp a.name a.offset
      let conditions ← t.bindClause (Statement.select columns name clause) true
      return (t.scan.filter (allHold conditions)).map fun r => operands.map fun o => o.value r) := by
  rw [runSelect, Statement.read_select clause ht hcs hne]
  cases (Statement.select columns name clause).checkClause with
  | error f => simp
  | ok _ => simp [table_plain hf]

theorem runDelete_checked (clause : Option Clause) (ht : Sql.isPlain name = true) (hf : db.find? name = some t)
    (hc : isCatalogue name = false) :
    db.runDelete name clause = (do
      (Statement.delete name clause).checkClause
      let conditions ← t.bindClause (Statement.delete name clause) true
      db.checkWritable
      return ((t.rows.filter (allHold conditions)).length,
        db.modify name fun t => t.erase (allHold conditions))) := by
  rw [runDelete, Statement.read_delete clause ht]
  cases (Statement.delete name clause).checkClause with
  | error f => simp
  | ok _ => simp [changeable_plain hf hc]

theorem runDelete_plain (clause : Option Clause) (ht : Sql.isPlain name = true) (hf : db.find? name = some t)
    (hc : isCatalogue name = false) (hw : db.writable = true) :
    db.runDelete name clause = (do
      (Statement.delete name clause).checkClause
      let conditions ← t.bindClause (Statement.delete name clause) true
      return ((t.rows.filter (allHold conditions)).length,
        db.modify name fun t => t.erase (allHold conditions))) := by
  simp [runDelete_checked clause ht hf hc, checkWritable_ok hw]

end Database

end Herbarium
