import Herbarium.Proofs.Database.RowNumbers
import Herbarium.Proofs.Database.Tables
import Herbarium.Proofs.Specimen.Construction
import Herbarium.Proofs.Store.Sessions

/-!
The table of specimens.

The equations say what an operation does with the rows of the table of specimens, in any database that has it,
`HasSpecimens`; its other tables play no part. A store that was created in an empty database is `ofRows rows`: its
database has this one table, with some rows. The scans are those of any well-named table (`wellNamed_table`). A row
whose cells are those of a specimen is read back as that specimen, and a specimen of finite lengths is inserted as the
cells of `stored`.
-/

namespace Herbarium

open Outcome
open Sql (Statement)

namespace Specimen

/-- The table of specimens with rows. -/
def table (rows : List StoredRow) : Table :=
  { name := tableName, definition := schema.definition, columns := schema.columns.map Sql.storedColumn, rows }

/-- The values of all fields, as the cells of a row hold them. -/
def cells (r : Specimen) : List Value := Field.all.map r.get

/-- The names of the columns. -/
def columnNames : List String := Field.all.map Field.name

/-- The column of a field as an operand of a query. -/
def operand (f : Field) : Operand := .cell (Field.all.idxOf f) (if f = .species then .text else .real)

theorem isPlain_tableName : Sql.isPlain tableName = true := by decide

theorem isPlain_columnNames : columnNames.all Sql.isPlain = true := by decide

theorem isCatalogue_tableName : Database.isCatalogue tableName = false := by decide

theorem sameFolded_tableName : Text.sameFolded tableName tableName = true := by decide

theorem wellNamed_table (rows : List StoredRow) : (table rows).WellNamed where
  plain := Database.storedColumns_plain isPlain_columnNames
  apart := by
    dsimp only [table]
    decide

theorem columnIndex?_name (rows : List StoredRow) (f : Field) :
    (table rows).columnIndex? f.name = some (Field.all.idxOf f) := by
  cases f <;> rfl

/-- The values of a row of all fields go to the columns in their order. -/
theorem targets_columnNames (rows : List StoredRow) :
    columnNames.mapM (fun column => (table rows).target tableName column) =
      .ok (Field.all.map fun f => .cell (Field.all.idxOf f)) := by
  rw [columnNames, List.mapM_map]
  exact mapM_eq_ok fun f _ => by simp [Table.target, columnIndex?_name]

/-- The operands of a query for all fields are the cells of the row. -/
theorem values_operands {row : StoredRow} {r : Specimen} (h : row.cells = r.cells) :
    (Field.all.map operand).map (fun o => o.value row) = r.cells := by
  obtain ⟨number, cells⟩ := row
  subst h
  rfl

/-- A finite length is kept without a zero's sign. -/
theorem store_real {x : Binary64} (h : x.isFinite = true) :
    (Value.real x).bind.store .real = .real x.unsigned := by
  rw [Value.bind, Binary64.not_isNaN_of_isFinite h, Binary64.unsigned_eq]
  simp only [Bool.false_eq_true, if_false, Value.store, Value.parseNumber, Value.toReal]
  split <;> rfl

theorem store_text (s : String) : (Value.text s).bind.store .text = .text s := rfl

/-- The cells of a new row are those of the specimen without a zero's sign. -/
theorem newCells_cells {r : Specimen} (h : r.IsFinite) (rows : List StoredRow) :
    ((table rows).columns.zipIdx.map fun (c, i) =>
      Table.newCell ((Field.all.map fun f => Target.cell (Field.all.idxOf f)).zip r.cells) i c) = r.stored.cells := by
  obtain ⟨h1, h2, h3, h4⟩ := isFinite_iff.mp h
  -- each column stores the value of its own field, whatever the values are
  have hcells : ∀ v : Field → Value, (table rows).columns.zipIdx.map (fun (c, i) =>
      Table.newCell ((Field.all.map fun f => Target.cell (Field.all.idxOf f)).zip (Field.all.map v)) i c) =
      Field.all.map fun f => (v f).bind.store (if f = .species then .text else .real) := fun _ => rfl
  rw [cells, hcells, cells]
  simp [Field.all, get, stored, store_real, h1, h2, h3, h4, store_text]

/-- No value of a row of all fields names the number of the row. -/
theorem newNumber_cells (rows : List StoredRow) (r : Specimen) :
    (table rows).newNumber ((Field.all.map fun f => Target.cell (Field.all.idxOf f)).zip r.cells) =
      .ok (table rows).nextNumber := rfl

/-- The cells of a row read as the columns are declared. -/
def readCells (row : StoredRow) : Row :=
  Database.readRow schema.columns ((Field.all.map operand).map fun o => o.value row)

theorem readCells_eq {row : StoredRow} {r : Specimen} (h : row.cells = r.cells) : readCells row = r.entries := by
  rw [readCells, values_operands h]
  rfl

theorem names_table (rows : List StoredRow) : (table rows).columns.map StoredColumn.name = columnNames := rfl

theorem readCells_table (rows : List StoredRow) : (table rows).readCells = readCells := rfl

end Specimen

namespace Database

variable {db : Database} {rows : List StoredRow}

/-- Whether a database has the table of specimens with rows, among whatever other tables. -/
def HasSpecimens (db : Database) (rows : List StoredRow) : Prop :=
  db.find? Specimen.tableName = some (Specimen.table rows)

theorem HasSpecimens.replace (h : db.HasSpecimens rows) (rows' : List StoredRow) :
    (db.modify Specimen.tableName fun _ => Specimen.table rows').HasSpecimens rows' :=
  find?_modify h Specimen.isCatalogue_tableName fun _ _ => Specimen.sameFolded_tableName

theorem HasSpecimens.erase (h : db.HasSpecimens rows) (p : StoredRow → Bool) :
    (db.modify Specimen.tableName fun t => t.erase p).HasSpecimens (rows.filter fun r => !p r) :=
  find?_modify h Specimen.isCatalogue_tableName fun _ hname => hname

/-- A query for all fields: the rows for which its conditions hold, oldest first. -/
theorem HasSpecimens.scanClause (h : db.HasSpecimens rows) (clause : Option Clause) :
    db.scanClause Specimen.tableName clause =
      ((do
        (Statement.select Specimen.columnNames Specimen.tableName clause).checkClause
        let conditions ←
          (Specimen.table rows).bindClause (Statement.select Specimen.columnNames Specimen.tableName clause) true
        return (rows.reverse.filter (allHold conditions)).map Specimen.readCells : Except Sql.Fault (List Row)).mapError
        fun f => operationError f (Statement.select Specimen.columnNames Specimen.tableName clause).text) := by
  rw [scanClause_eq clause Specimen.isPlain_tableName h (Specimen.wellNamed_table rows) (List.cons_ne_nil _ _),
    Specimen.names_table, Specimen.readCells_table]
  rfl

theorem entries_length (r : Specimen) : r.entries.length ≤ Sql.parameterLimit := by
  show 5 ≤ 32766
  decide

/-- A specimen of finite lengths is inserted as the newest row, its zeros without their sign. -/
theorem HasSpecimens.insertRow (h : db.HasSpecimens rows) (hw : db.writable = true) {r : Specimen} (hr : r.IsFinite)
    (hrows : Table.Falling rows) :
    db.insertRow Specimen.tableName r.entries =
      .ok (1, db.modify Specimen.tableName fun _ =>
        Specimen.table ({ number := (Specimen.table rows).nextNumber, cells := r.stored.cells } :: rows)) := by
  have hnames : r.entries.map Prod.fst = Specimen.columnNames := rfl
  have hvalues : r.entries.map Prod.snd = r.cells := rfl
  have hrun := runInsert_plain r.entries Specimen.isPlain_tableName Specimen.isPlain_columnNames h
    Specimen.isCatalogue_tableName hw (entries_length r)
  rw [hnames, hvalues, Specimen.targets_columnNames] at hrun
  simp only [ok_bind, pure_eq_ok, Table.insertRow, Specimen.newNumber_cells, Specimen.newCells_cells hr] at hrun
  have hinsert : (Specimen.table rows).insert
      { number := (Specimen.table rows).nextNumber, cells := r.stored.cells } =
      Specimen.table ({ number := (Specimen.table rows).nextNumber, cells := r.stored.cells } :: rows) := by
    rw [Table.insert, Table.insertSorted_newest (Table.lt_nextNumber hrows)]
    rfl
  rw [hinsert] at hrun
  simp [insertRow_steps, hrun]

/-- Only a database that can be changed takes a specimen. -/
theorem HasSpecimens.writable_of_insertRow (h : db.HasSpecimens rows) {r : Specimen} {p : Nat × Database}
    (hok : db.insertRow Specimen.tableName r.entries = .ok p) : db.writable = true := by
  rw [insertRow_steps] at hok
  obtain ⟨db', hrun, _⟩ := bind_eq_ok.mp hok
  rw [mapError_eq_ok, runInsert_checked r.entries Specimen.isPlain_tableName Specimen.isPlain_columnNames h
    Specimen.isCatalogue_tableName (entries_length r)] at hrun
  obtain ⟨_, _, hrun⟩ := bind_eq_ok.mp hrun
  exact writable_of_check (check_bind_eq_ok.mp hrun).1

/-- A deletion removes the rows for which its conditions hold. -/
theorem HasSpecimens.deleteClause (h : db.HasSpecimens rows) (hw : db.writable = true) (clause : Option Clause) :
    db.deleteClause Specimen.tableName clause =
      ((do
        (Statement.delete Specimen.tableName clause).checkClause
        let conditions ← (Specimen.table rows).bindClause (Statement.delete Specimen.tableName clause) true
        return ((rows.filter (allHold conditions)).length,
          db.modify Specimen.tableName fun t => t.erase (allHold conditions)) :
          Except Sql.Fault (Nat × Database)).mapError
            fun f => operationError f (Statement.delete Specimen.tableName clause).text) := by
  have hrun := runDelete_plain clause Specimen.isPlain_tableName h Specimen.isCatalogue_tableName hw
  rw [deleteClause_steps, hrun]
  rfl

/-- Only of a database that can be changed specimens are deleted. -/
theorem HasSpecimens.writable_of_deleteClause (h : db.HasSpecimens rows) {clause : Option Clause} {p : Nat × Database}
    (hok : db.deleteClause Specimen.tableName clause = .ok p) : db.writable = true := by
  rw [deleteClause_steps, mapError_eq_ok,
    runDelete_checked clause Specimen.isPlain_tableName h Specimen.isCatalogue_tableName] at hok
  obtain ⟨_, _, hok⟩ := bind_eq_ok.mp hok
  obtain ⟨_, _, hok⟩ := bind_eq_ok.mp hok
  exact writable_of_check (check_bind_eq_ok.mp hok).1

/-! ## The table is made where it is missing -/

theorem check_schema : Specimen.schema.check = .ok () := rfl

theorem runCreate_specimens (db : Database) :
    db.runCreate Specimen.schema =
      db.create Specimen.schema.definition Specimen.tableName (Specimen.table []).columns none := rfl

theorem isReservedTable_tableName : Sql.isReservedTable Specimen.tableName = false := rfl

theorem HasSpecimens.ensure (h : db.HasSpecimens rows) : db.ensure Specimen.schema = .ok db := by
  have hfind : db.find? Specimen.tableName = some (Specimen.table rows) := h
  rw [ensure_steps, check_schema, mapError_ok, ok_bind, runCreate_specimens, create, isReservedTable_tableName]
  simp [hfind, checkRest]

theorem ensure_missing (h : db.find? Specimen.tableName = none) (hw : db.writable = true) :
    ∃ db', db.ensure Specimen.schema = .ok db' ∧ db'.HasSpecimens [] := by
  refine ⟨db.add (Specimen.table []), ?_, ?_⟩
  · have hcolumns : checkColumns Specimen.tableName [] (Specimen.table []).columns = .ok () := rfl
    have hname : Text.asciiFold Specimen.tableName ≠ "if" := by decide
    rw [ensure_steps, check_schema, mapError_ok, ok_bind, runCreate_specimens, create, isReservedTable_tableName]
    simp [h, checkRest, hcolumns, checkWritable_ok hw, hname]
    rfl
  · rw [find?, Specimen.isCatalogue_tableName] at h
    simp only [Bool.false_eq_true, if_false] at h
    simp [HasSpecimens, find?, Specimen.isCatalogue_tableName, add, List.find?_append, h, Specimen.table,
      Specimen.sameFolded_tableName]

end Database

namespace Store

/-- The store of a database that has the table of specimens only. -/
def ofRows (rows : List StoredRow) : Store := { database := { tables := [Specimen.table rows] } }

theorem ofDatabase_empty : ofDatabase .empty = .ok (ofRows []) := rfl

variable (rows : List StoredRow)

theorem find?_ofRows : (ofRows rows).database.HasSpecimens rows := by
  simp [Database.HasSpecimens, ofRows, Database.find?, Specimen.isCatalogue_tableName, Specimen.table,
    Specimen.sameFolded_tableName]

theorem modify_ofRows (f : Table → Table) (rows' : List StoredRow)
    (h : f (Specimen.table rows) = Specimen.table rows') :
    (ofRows rows).database.modify Specimen.tableName f = (ofRows rows').database := by
  have hname : Text.sameFolded (Specimen.table rows).name Specimen.tableName = true := Specimen.sameFolded_tableName
  simp [ofRows, Database.modify, hname, h]

theorem erase_ofRows (p : StoredRow → Bool) :
    (ofRows rows).database.modify Specimen.tableName (fun t => t.erase p) =
      (ofRows (rows.filter fun r => !p r)).database :=
  modify_ofRows rows _ _ rfl

/-- A query for all fields: the rows for which its conditions hold, oldest first. -/
theorem scanClause_ofRows (clause : Option Clause) :
    (ofRows rows).database.scanClause Specimen.tableName clause =
      ((do
        (Statement.select Specimen.columnNames Specimen.tableName clause).checkClause
        let conditions ←
          (Specimen.table rows).bindClause (Statement.select Specimen.columnNames Specimen.tableName clause) true
        return (rows.reverse.filter (allHold conditions)).map Specimen.readCells : Except Sql.Fault (List Row)).mapError
        fun f => Database.operationError f (Statement.select Specimen.columnNames Specimen.tableName clause).text) :=
  (find?_ofRows rows).scanClause clause

/-- A query without filters reads all rows, oldest first. -/
theorem scan_ofRows :
    (ofRows rows).database.scan Specimen.tableName [] = .ok (rows.reverse.map Specimen.readCells) := by
  rw [Database.scan_all Specimen.isPlain_tableName (find?_ofRows rows) (Specimen.wellNamed_table rows)
    (List.cons_ne_nil _ _), Specimen.readCells_table]
  rfl

/-- A specimen of finite lengths is inserted as the newest row, its zeros without their sign. -/
theorem insertRow_ofRows {rows : List StoredRow} {r : Specimen} (h : r.IsFinite) (hrows : Table.Falling rows) :
    (ofRows rows).database.insertRow Specimen.tableName r.entries =
      .ok (1, (ofRows ({ number := (Specimen.table rows).nextNumber, cells := r.stored.cells } :: rows)).database) := by
  rw [(find?_ofRows rows).insertRow rfl h hrows, modify_ofRows rows _ _ rfl]

/-- A deletion removes the rows for which its conditions hold. -/
theorem deleteClause_ofRows (clause : Option Clause) :
    (ofRows rows).database.deleteClause Specimen.tableName clause =
      ((do
        (Statement.delete Specimen.tableName clause).checkClause
        let conditions ← (Specimen.table rows).bindClause (Statement.delete Specimen.tableName clause) true
        return ((rows.filter (allHold conditions)).length,
          (ofRows (rows.filter fun r => !allHold conditions r)).database) : Except Sql.Fault (Nat × Database)).mapError
            fun f => Database.operationError f (Statement.delete Specimen.tableName clause).text) := by
  simp only [← erase_ofRows]
  exact (find?_ofRows rows).deleteClause rfl clause

/-- A deletion without a clause removes all rows. -/
theorem deleteAll_ofRows :
    (ofRows rows).database.deleteAll Specimen.tableName = .ok (rows.length, (ofRows []).database) := by
  have hnone : (rows.filter fun r => !allHold [] r) = [] := List.filter_eq_nil_iff.mpr fun _ _ => by simp [allHold]
  have hall : rows.filter (allHold []) = rows := List.filter_eq_self.mpr fun _ _ => rfl
  have hdelete := deleteClause_ofRows rows none
  simp only [Statement.checkClause, Statement.clause?, Table.bindClause, ok_bind, pure_eq_ok, mapError_ok, hall,
    hnone] at hdelete
  exact hdelete

end Store

end Herbarium
