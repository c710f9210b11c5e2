import Herbarium.Proofs.Database.Conditions
import Herbarium.Proofs.Database.Duplicates

/-!
Rows of any table.

The columns of a table have plain names of which no two are the same in any case, `Table.WellNamed`: so has every table
that a schema of plain names creates (`ensure_wellNamed`). Then each column is found under its name, and what a scan
shows of a row are its cells, each under the name of its column and read as its column is declared, `Table.readCells`.
A scan by filters shows the rows whose cells pass them, a deletion leaves the others (`selects_of_passes`). A row that
is inserted is shown at one place among the rows that were there, with the values given for its columns as these hold
them (`insertRow_scan`).
-/

namespace Herbarium

open Outcome
open Sql (Statement)

/-! ## Plain names -/

namespace Sql

variable {name : String}

theorem isNameStart_of_ascii {c : Char} (h : isWordStart c = true) (hascii : c.toNat < 128) :
    Clause.isNameStart c = true := by
  simp only [isWordStart, Bool.or_eq_true, decide_eq_true_eq] at h
  rw [Clause.isNameStart, Bool.or_eq_true]
  exact h.resolve_right (Nat.not_le.mpr hascii)

/-- A name that a statement takes for one may be the column of a filter. -/
theorem isIdentifier_clause (h : isIdentifier name = true) : Clause.isIdentifier name.toList = true := by
  rw [isIdentifier] at h
  split at h
  · cases h
  next c cs hname =>
    rw [hname, Clause.isIdentifier]
    simp only [Bool.and_eq_true, List.all_eq_true, decide_eq_true_eq] at h ⊢
    obtain ⟨⟨hc, hascii⟩, hcs⟩ := h
    refine ⟨isNameStart_of_ascii hc hascii, fun d hd => ?_⟩
    obtain ⟨⟨hpart, hascii⟩, hdollar⟩ := hcs d hd
    simp only [isWordPart, Bool.or_eq_true, beq_iff_eq] at hpart
    rw [Clause.isNamePart, Bool.or_eq_true]
    rcases hpart with (hstart | hdigit) | rfl
    · exact Or.inl (isNameStart_of_ascii hstart hascii)
    · exact Or.inr hdigit
    · cases hdollar

/-- A name is no number. -/
theorem not_isLiteral_of_isIdentifier {cs : List Char} (h : Clause.isIdentifier cs = true) :
    Clause.isLiteral cs = false := by
  cases cs with
  | nil => rfl
  | cons c cs =>
    have hc : Text.isDigit c = false := by
      simp only [Clause.isIdentifier, Clause.isNameStart, Text.isLetter, Bool.and_eq_true, Bool.or_eq_true,
        decide_eq_true_eq, beq_iff_eq] at h
      rw [Text.isDigit, Bool.and_eq_false_iff, decide_eq_false_iff_not, decide_eq_false_iff_not]
      refine Or.inr fun hdigit => ?_
      rcases h.1 with (hlower | hupper) | rfl
      · exact absurd (Char.le_trans hlower.1 hdigit) (by decide)
      · exact absurd (Char.le_trans hupper.1 hdigit) (by decide)
      · exact absurd hdigit (by decide)
    rw [Clause.isLiteral, List.all_cons, hc, Bool.false_and, Bool.and_false]

theorem isColumn_of_plain (h : isPlain name = true) : Clause.IsColumn name.toList :=
  Clause.isColumn_iff.mp (Or.inl (isIdentifier_clause (isPlain_cases h).1))

theorem isPlain_words (h : isPlain name = true) :
    isReserved name = false ∧ isOpening name = false ∧ isClock name = false := by
  simp only [isPlain, Bool.and_eq_true, Bool.not_eq_true', Bool.or_eq_false_iff] at h
  exact ⟨h.2.1.1.1, h.2.1.1.2, h.2.1.2⟩

theorem isOperandWord_of_plain (h : isPlain name = true) : IsOperandWord name := by
  obtain ⟨hreserved, hopening, _⟩ := isPlain_words h
  refine ⟨hopening, fun hword => ?_⟩
  rw [hreserved] at hword
  cases hword

theorem asciiFold_ne_null (h : isPlain name = true) : Text.asciiFold name ≠ "null" := by
  intro hnull
  have hreserved := (isPlain_words h).1
  rw [isReserved, hnull] at hreserved
  exact absurd hreserved (by decide)

end Sql

/-- What a column of a new row holds: the first value given for the column, as its affinity converts it. -/
def StoredColumn.received (c : StoredColumn) (row : Row) : Value :=
  match row.find? fun p => Text.sameFolded c.name p.1 with
  | some (_, v) => v.bind.store c.affinity
  | none => .null

namespace Table

variable {t : Table} {r : StoredRow} {row : Row} {i : Nat} {c : StoredColumn} {given : String}

/-- A table whose columns have plain names, no two of them the same in any case. -/
structure WellNamed (t : Table) : Prop where
  plain : t.HasPlainColumns
  apart : (t.columns.map fun c => Text.asciiFold c.name).Nodup

/-- What a scan shows of a row. -/
def readCells (t : Table) (r : StoredRow) : Row :=
  t.columns.zipIdx.map fun (c, i) => (c.name, ((r.cells[i]?).getD .null).cast (.ofDeclaration c.declared))

/-- What a scan shows of a row that was inserted. -/
def readBack (t : Table) (row : Row) : Row :=
  t.columns.map fun c => (c.name, (c.received row).cast (.ofDeclaration c.declared))

theorem map_columns {α : Type} (t : Table) (f : StoredColumn → α) :
    t.columns.map f = t.columns.zipIdx.map fun p => f p.1 := by
  conv_lhs => rw [← List.zipIdx_map_fst 0 t.columns, List.map_map]
  rfl

/-! ## Looking up columns -/

/-- A column is found at its place, and no other column there. -/
theorem columnIndex?_eq_some_iff (ht : t.WellNamed) (hc : t.columns[i]? = some c) :
    t.columnIndex? given = some i ↔ Text.sameFolded c.name given = true := by
  obtain ⟨hi, rfl⟩ := List.getElem?_eq_some_iff.mp hc
  rw [columnIndex?, List.findIdx?_eq_some_iff_getElem]
  constructor
  · rintro ⟨_, hfound, _⟩
    exact hfound
  · intro hfound
    refine ⟨hi, hfound, fun j hj hother => ?_⟩
    -- a column before it of the same name would be a second one
    have hne := List.pairwise_iff_getElem.mp (List.pairwise_map.mp ht.apart) j i (Nat.lt_trans hj hi) hi hj
    exact hne ((Database.sameFolded_iff.mp hother).trans (Database.sameFolded_iff.mp hfound).symm)

/-- A column is what its name stands for. -/
theorem operand?_column (ht : t.WellNamed) (hc : t.columns[i]? = some c) :
    t.operand? c.name = some (.cell i c.affinity) := by
  have hplain : Sql.isPlain c.name = true := ht.plain c (List.mem_of_getElem? hc)
  have hliteral := Sql.not_isLiteral_of_isIdentifier (Sql.isIdentifier_clause (Sql.isPlain_cases hplain).1)
  have hindex : t.columnIndex? c.name = some i := (columnIndex?_eq_some_iff ht hc).mpr (Database.sameFolded_iff.mpr rfl)
  have hcell : t.cell? c.name = some (.cell i c.affinity) := by
    simp [cell?, hindex, hc]
  simp [operand?, hliteral, Sql.asciiFold_ne_null hplain, (Sql.isPlain_words hplain).2.2, hcell]

theorem lookUp_askedFrom {α : Type} {xs : List α} {name : α → String} {operand : α → Operand}
    (h : ∀ x ∈ xs, t.operand? (name x) = some (operand x)) (start : Nat) :
    (Sql.askedFrom start (xs.map name)).mapM (fun a => t.lookUp a.name a.offset) = .ok (xs.map operand) := by
  induction xs generalizing start with
  | nil => rfl
  | cons x xs ih =>
    rw [List.map_cons, Sql.askedFrom, List.mapM_cons, lookUp_some (h x List.mem_cons_self), ok_bind,
      ih (fun y hy => h y (List.mem_cons_of_mem x hy)), ok_bind]
    rfl

/-- The columns of a query for all columns. -/
theorem lookUp_columns (ht : t.WellNamed) (start : Nat) :
    (Sql.askedFrom start (t.columns.map StoredColumn.name)).mapM (fun a => t.lookUp a.name a.offset) =
      .ok (t.columns.zipIdx.map fun (c, i) => .cell i c.affinity) := by
  rw [t.map_columns]
  exact lookUp_askedFrom (fun p hp => operand?_column ht (List.mem_zipIdx_iff_getElem?.mp hp)) start

/-- What a row has is looked up by its name, if no other has that name. -/
theorem lookup_of_mem {row : Row} (hnodup : (row.map Prod.fst).Nodup) {name : String} {v : Value}
    (h : (name, v) ∈ row) : row.lookup name = some v := by
  induction row with
  | nil => cases h
  | cons p row ih =>
    rw [List.map_cons, List.nodup_cons] at hnodup
    rcases List.mem_cons.mp h with rfl | hmem
    · exact List.lookup_cons_self
    · have hne : (name == p.1) = false := by
        rw [beq_eq_false_iff_ne]
        rintro rfl
        exact hnodup.1 (List.mem_map.mpr ⟨_, hmem, rfl⟩)
      rw [List.lookup_cons, hne]
      exact ih hnodup.2 hmem

theorem nodup_names (ht : t.WellNamed) : (t.columns.map StoredColumn.name).Nodup := by
  refine List.Nodup.of_map Text.asciiFold ?_
  rw [List.map_map]
  exact ht.apart

/-- A scan shows a cell under the name of its column. -/
theorem lookup_readCells (ht : t.WellNamed) (hc : t.columns[i]? = some c) (r : StoredRow) :
    (t.readCells r).lookup c.name = some (((r.cells[i]?).getD .null).cast (.ofDeclaration c.declared)) := by
  refine lookup_of_mem ?_ ?_
  · have hnames : (t.readCells r).map Prod.fst = t.columns.map StoredColumn.name := by
      rw [readCells, List.map_map, t.map_columns]
      rfl
    rw [hnames]
    exact nodup_names ht
  · exact List.mem_map.mpr ⟨(c, i), List.mem_zipIdx_iff_getElem?.mpr hc, rfl⟩

theorem lookup_readBack (ht : t.WellNamed) (hc : c ∈ t.columns) (row : Row) :
    (t.readBack row).lookup c.name = some ((c.received row).cast (.ofDeclaration c.declared)) := by
  refine lookup_of_mem ?_ (List.mem_map_of_mem hc)
  rw [readBack, List.map_map]
  exact nodup_names ht

end Table

namespace Database

variable {db db' : Database} {name : String} {t : Table} {row : Row} {filters : List Filter}

/-! ## Scans -/

theorem tableColumns_eq (hf : db.find? name = some t) :
    db.tableColumns name = t.columns.map fun c => { name := c.name, type := .ofDeclaration c.declared } := by
  rw [tableColumns, Database.columns, hf]

/-- The cells of a row, read as the columns are declared. -/
theorem readRow_operands (t : Table) (r : StoredRow) :
    readRow (t.columns.map fun c => { name := c.name, type := .ofDeclaration c.declared })
      ((t.columns.zipIdx.map fun (c, i) => Operand.cell i c.affinity).map fun o => o.value r) = t.readCells r := by
  rw [readRow, t.map_columns, List.map_map, List.zip_map', List.map_map, Table.readCells]
  simp only [Function.comp_def, Operand.value]

/-- A scan shows the rows for which its conditions hold. -/
theorem scanClause_eq (clause : Option Clause) (hname : Sql.isPlain name = true) (hf : db.find? name = some t)
    (ht : t.WellNamed) (hne : t.columns ≠ []) :
    db.scanClause name clause =
      ((do
        (Statement.select (t.columns.map StoredColumn.name) name clause).checkClause
        let conditions ← t.bindClause (Statement.select (t.columns.map StoredColumn.name) name clause) true
        return (t.scan.filter (allHold conditions)).map t.readCells : Except Sql.Fault (List Row)).mapError
        fun f => operationError f (Statement.select (t.columns.map StoredColumn.name) name clause).text) := by
  have hcolumns := tableColumns_eq hf
  have hnames : (t.columns.map fun c => ({ name := c.name, type := .ofDeclaration c.declared } : Column)).map
      Column.name = t.columns.map StoredColumn.name := by
    rw [List.map_map]
    rfl
  have hplain : (t.columns.map StoredColumn.name).all Sql.isPlain = true := by
    rw [List.all_map]
    exact List.all_eq_true.mpr ht.plain
  have hrun := runSelect_plain clause hname hplain (fun hnil => hne (List.map_eq_nil_iff.mp hnil)) hf
  rw [scanClause_steps, schemaOf_of_columns (by rw [hcolumns]; simpa using hne), hcolumns, ok_bind]
  dsimp only
  rw [hnames, hrun, Table.lookUp_columns ht]
  -- both sides fail where the clause does, with the same report
  cases (Statement.select (t.columns.map StoredColumn.name) name clause).checkClause with
  | error f => simp
  | ok _ =>
    cases t.bindClause (Statement.select (t.columns.map StoredColumn.name) name clause) true with
    | error f => simp
    | ok conditions =>
      simp only [ok_bind, pure_eq_ok, mapError_ok]
      exact congrArg Except.ok (List.map_map.trans (List.map_congr_left fun r _ => readRow_operands t r))

/-- A scan without filters shows all rows. -/
theorem scan_all (hname : Sql.isPlain name = true) (hf : db.find? name = some t) (ht : t.WellNamed)
    (hne : t.columns ≠ []) : db.scan name [] = .ok (t.scan.map t.readCells) := by
  have hall : t.scan.filter (allHold []) = t.scan := List.filter_eq_self.mpr fun _ _ => rfl
  have hscan := scanClause_eq none hname hf ht hne
  simp only [Statement.checkClause, Statement.clause?, Table.bindClause, ok_bind, pure_eq_ok, mapError_ok, hall]
    at hscan
  simpa [scan_steps, compileFilters, Clause.compile] using hscan

/-- A scan by filters shows the rows that pass all of them. -/
theorem scan_filters (hname : Sql.isPlain name = true) (hf : db.find? name = some t) (ht : t.WellNamed)
    (hne : t.columns ≠ []) (hfilters : filters ≠ []) (hcolumns : ∀ f ∈ filters, Clause.IsColumn f.column.toList)
    (ha : t.Answers (filters.map Clause.condition)) :
    db.scan name filters = .ok ((t.scan.filter (t.passesAll filters)).map t.readCells) := by
  obtain ⟨clause, hclause, hstatement⟩ := clause_answered hfilters hcolumns ha
  obtain ⟨bound, hcheck, hbind, hpass⟩ :=
    hstatement (.select (t.columns.map StoredColumn.name) name (some clause)) rfl
  rw [scan_steps, hclause, ok_bind, scanClause_eq _ hname hf ht hne, hcheck, ok_bind, hbind, ok_bind, pure_eq_ok,
    mapError_ok, hpass]

/-- A deletion by filters takes out the rows that pass all of them. -/
theorem delete_filters (hname : Sql.isPlain name = true) (hf : db.find? name = some t) (hc : isCatalogue name = false)
    (hw : db.writable = true) (hfilters : filters ≠ []) (hcolumns : ∀ f ∈ filters, Clause.IsColumn f.column.toList)
    (ha : t.Answers (filters.map Clause.condition)) :
    db.delete name filters =
      .ok ((t.rows.filter (t.passesAll filters)).length, db.modify name fun t' => t'.erase (t.passesAll filters)) := by
  obtain ⟨clause, hclause, hstatement⟩ := clause_answered hfilters hcolumns ha
  obtain ⟨bound, hcheck, hbind, hpass⟩ := hstatement (.delete name (some clause)) rfl
  rw [delete_steps, hclause, ok_bind]
  dsimp only
  rw [deleteClause_steps, runDelete_plain _ hname hf hc hw, hcheck, ok_bind, hbind, ok_bind, pure_eq_ok, mapError_ok, hpass]

/-- Whether filters show the rows of a kind, and delete just these where anything can be deleted. -/
structure Selects (db : Database) (name : String) (filters : List Filter) (kind : Row → Bool) : Prop where
  scan : ∃ rows, db.scan name [] = .ok rows ∧ db.scan name filters = .ok (rows.filter kind)
  delete : isCatalogue name = false → db.writable = true → ∃ rows db', db.scan name [] = .ok rows ∧
    db.delete name filters = .ok ((rows.filter kind).length, db') ∧
      db'.scan name [] = .ok (rows.filter fun row => !kind row)

/-- Filters that can be answered show and delete the rows whose cells pass them. -/
theorem selects_of_passes (hname : Sql.isPlain name = true) (hf : db.find? name = some t) (ht : t.WellNamed)
    (hne : t.columns ≠ []) (hfilters : filters ≠ []) (hcolumns : ∀ f ∈ filters, Clause.IsColumn f.column.toList)
    (ha : t.Answers (filters.map Clause.condition)) {kind : Row → Bool}
    (hkind : ∀ r ∈ t.rows, t.passesAll filters r = kind (t.readCells r)) : db.Selects name filters kind := by
  have hshown : (t.scan.map t.readCells).filter kind = (t.scan.filter (t.passesAll filters)).map t.readCells := by
    rw [List.filter_map]
    exact congrArg _ (List.filter_congr fun r hr => (hkind r (List.mem_reverse.mp hr)).symm)
  have hleft : (t.scan.map t.readCells).filter (fun row => !kind row) =
      (t.erase (t.passesAll filters)).scan.map t.readCells := by
    rw [List.filter_map, Table.scan, Table.scan, Table.erase, ← List.filter_reverse]
    refine congrArg _ (List.filter_congr fun r hr => ?_)
    rw [hkind r (List.mem_reverse.mp hr)]
    rfl
  refine ⟨⟨_, scan_all hname hf ht hne, ?_⟩, fun hown hw => ?_⟩
  · rw [scan_filters hname hf ht hne hfilters hcolumns ha, hshown]
  · have hf' : (db.modify name fun t' => t'.erase (t.passesAll filters)).find? name =
        some (t.erase (t.passesAll filters)) := find?_modify hf hown fun _ hsame => hsame
    have hscan := scan_all hname hf' ⟨ht.plain, ht.apart⟩ hne
    refine ⟨_, _, scan_all hname hf ht hne, ?_, hscan.trans ?_⟩
    · rw [delete_filters hname hf hown hw hfilters hcolumns ha, hshown, List.length_map, Table.scan,
        List.filter_reverse, List.length_reverse]
    · rw [hleft]
      rfl

end Database

/-! ## Insertions -/

namespace Table

variable {t : Table} {row : Row} {i : Nat} {c : StoredColumn} {given : String} {target : Target} {targets : List Target}

/-- A row is put between rows that stay in their order. -/
theorem insertSorted_eq (r : StoredRow) (rows : List StoredRow) :
    ∃ newer older, rows = newer ++ older ∧ insertSorted r rows = newer ++ r :: older := by
  induction rows with
  | nil => exact ⟨[], [], rfl, rfl⟩
  | cons r' rest ih =>
    rw [insertSorted]
    split
    · exact ⟨[], r' :: rest, rfl, rfl⟩
    · obtain ⟨newer, older, hrest, hinsert⟩ := ih
      exact ⟨r' :: newer, older, by rw [hrest, List.cons_append], by rw [hinsert, List.cons_append]⟩

/-- A value goes to a column exactly if it is given for it. -/
theorem target_cell (ht : t.WellNamed) (hc : t.columns[i]? = some c) {table : String}
    (h : t.target table given = .ok target) : (target == .cell i) = Text.sameFolded c.name given := by
  have hiff : t.columnIndex? given = some i ↔ Text.sameFolded c.name given = true := columnIndex?_eq_some_iff ht hc
  rw [Bool.eq_iff_iff, beq_iff_eq, ← hiff]
  rw [Table.target] at h
  cases hindex : t.columnIndex? given with
  | some j =>
    rw [hindex] at h
    cases h
    simp
  | none =>
    rw [hindex] at h
    dsimp only at h
    split at h
    · cases h
      simp
    · cases h

/-- The new cell of a column is what the column receives from the row. -/
theorem newCell_eq (ht : t.WellNamed) (hc : t.columns[i]? = some c) {table : String}
    (h : (row.map Prod.fst).mapM (fun name => t.target table name) = .ok targets) :
    newCell (targets.zip (row.map Prod.snd)) i c = c.received row := by
  have hfind : ((targets.zip (row.map Prod.snd)).find? fun a => a.1 == .cell i).map Prod.snd =
      (row.find? fun p => Text.sameFolded c.name p.1).map Prod.snd := by
    induction row generalizing targets with
    | nil =>
      cases h
      rfl
    | cons p row ih =>
      rw [List.map_cons, List.mapM_cons] at h
      obtain ⟨target, htarget, h⟩ := bind_eq_ok.mp h
      obtain ⟨rest, hrest, h⟩ := bind_eq_ok.mp h
      cases h
      rw [List.map_cons, List.zip_cons_cons, List.find?_cons, List.find?_cons, target_cell ht hc htarget]
      cases Text.sameFolded c.name p.1 with
      | true => rfl
      | false => exact ih hrest
  have hcell : newCell (targets.zip (row.map Prod.snd)) i c =
      (((targets.zip (row.map Prod.snd)).find? fun a => a.1 == .cell i).map Prod.snd).elim .null fun v =>
        v.bind.store c.affinity := by
    rw [newCell]
    cases (targets.zip (row.map Prod.snd)).find? fun a => a.1 == .cell i <;> rfl
  rw [hcell, hfind, StoredColumn.received]
  cases row.find? fun p => Text.sameFolded c.name p.1 <;> rfl

theorem insertRow_cells {assignments : List (Target × Value)} {t' : Table} (h : t.insertRow assignments = .ok t') :
    ∃ number, t' = t.insert { number, cells := t.columns.zipIdx.map fun (c, i) => newCell assignments i c } := by
  obtain ⟨number, _, h⟩ := bind_eq_ok.mp h
  cases h
  exact ⟨number, rfl⟩

theorem readCells_new (t : Table) (row : Row) (number : Int) {cell : Nat → StoredColumn → Value}
    (hcell : ∀ i c, t.columns[i]? = some c → cell i c = c.received row) :
    t.readCells { number, cells := t.columns.zipIdx.map fun (c, i) => cell i c } = t.readBack row := by
  rw [readCells, readBack, t.map_columns]
  refine List.map_congr_left fun p hp => ?_
  have hplace := List.mem_zipIdx_iff_getElem?.mp hp
  have hnew : (t.columns.zipIdx.map fun (c, i) => cell i c)[p.2]? = some (cell p.2 p.1) := by
    simp [hplace]
  simp only [hnew, Option.getD_some, hcell p.2 p.1 hplace]

end Table

namespace Database

variable {db db' : Database} {name : String} {t : Table} {row : Row} {n i : Nat} {c : StoredColumn}

theorem insertRow_find (hname : Sql.isPlain name = true) (hrow : (row.map Prod.fst).all Sql.isPlain = true)
    (hf : db.find? name = some t) (ht : t.WellNamed) (h : db.insertRow name row = .ok (n, db')) :
    n = 1 ∧ ∃ r, db'.find? name = some (t.insert r) ∧ t.readCells r = t.readBack row := by
  rw [insertRow_steps] at h
  obtain ⟨db₁, hrun, h⟩ := bind_eq_ok.mp h
  cases h
  rw [mapError_eq_ok, runInsert, Statement.read_insert hname hrow, ok_bind] at hrun
  dsimp only at hrun
  split at hrun
  · cases hrun
  · dsimp only [Database.insert] at hrun
    obtain ⟨t₁, ht₁, hrun⟩ := bind_eq_ok.mp hrun
    obtain ⟨targets, htargets, hrun⟩ := bind_eq_ok.mp hrun
    split at hrun
    · cases hrun
    · obtain ⟨_, hrun⟩ := check_bind_eq_ok.mp hrun
      obtain ⟨t', ht', hrun⟩ := bind_eq_ok.mp hrun
      cases hrun
      obtain ⟨hf₁, hc⟩ := changeable_ok ht₁
      obtain rfl : t = t₁ := Option.some.inj (hf.symm.trans hf₁)
      obtain ⟨_, hsame⟩ := mem_of_find? hf hc
      obtain ⟨number, rfl⟩ := Table.insertRow_cells ht'
      refine ⟨rfl, _, find?_modify hf hc fun _ _ => hsame, ?_⟩
      exact t.readCells_new row number fun i c hplace => Table.newCell_eq ht hplace htargets

/-- A row that is inserted is shown at one place among the rows that were there. -/
theorem insertRow_scan (hname : Sql.isPlain name = true) (hrow : (row.map Prod.fst).all Sql.isPlain = true)
    (hf : db.find? name = some t) (ht : t.WellNamed) (hne : t.columns ≠ []) (h : db.insertRow name row = .ok (n, db')) :
    n = 1 ∧ ∃ older newer, db.scan name [] = .ok (older ++ newer) ∧
      db'.scan name [] = .ok (older ++ t.readBack row :: newer) := by
  obtain ⟨hn, r, hf', hread⟩ := insertRow_find hname hrow hf ht h
  obtain ⟨newer, older, hrows, hinsert⟩ := Table.insertSorted_eq r t.rows
  refine ⟨hn, older.reverse.map t.readCells, newer.reverse.map t.readCells, ?_, ?_⟩
  · rw [scan_all hname hf ht hne, Table.scan, hrows, List.reverse_append, List.map_append]
  · have hscan := scan_all hname hf' ⟨ht.plain, ht.apart⟩ hne
    have hrows' : (t.insert r).scan = older.reverse ++ r :: newer.reverse := by
      rw [Table.scan, Table.insert, hinsert]
      simp
    have hcells : (t.insert r).readCells = t.readCells := rfl
    rw [hscan, hrows', hcells, List.map_append, List.map_cons, hread]

/-- A value for one column is inserted if the database can be changed. -/
theorem insertRow_single (hname : Sql.isPlain name = true) (hf : db.find? name = some t) (ht : t.WellNamed)
    (hc : t.columns[i]? = some c) (hown : isCatalogue name = false) (hw : db.writable = true) (v : Value) :
    ∃ db', db.insertRow name [(c.name, v)] = .ok (1, db') := by
  have hplain : ([(c.name, v)].map Prod.fst).all Sql.isPlain = true := by
    simpa using ht.plain c (List.mem_of_getElem? hc)
  have hindex : t.columnIndex? c.name = some i :=
    (Table.columnIndex?_eq_some_iff ht hc).mpr (sameFolded_iff.mpr rfl)
  have htargets : ([(c.name, v)].map Prod.fst).mapM (fun column => t.target name column) = .ok [.cell i] :=
    mapM_eq_ok (g := fun _ => Target.cell i) (by simp [Table.target, hindex])
  have hnumber : t.newNumber ([Target.cell i].zip ([(c.name, v)].map Prod.snd)) = .ok t.nextNumber := rfl
  have hrun := runInsert_plain [(c.name, v)] hname hplain hf hown hw (show 1 ≤ 32766 by decide)
  rw [htargets, ok_bind, Table.insertRow, hnumber, ok_bind, pure_eq_ok, ok_bind, pure_eq_ok] at hrun
  exact ⟨_, by rw [insertRow_steps, hrun, mapError_ok, ok_bind, pure_eq_ok]⟩

/-! ## Created tables -/

/-- The table that a schema of plain names creates is well named. -/
theorem ensure_wellNamed {schema : Schema} (hname : Sql.isPlain schema.name = true)
    (hcolumns : (schema.columns.map Column.name).all Sql.isPlain = true)
    (hfresh : ∀ t ∈ db.tables, Text.sameFolded t.name schema.name = false) (h : db.ensure schema = .ok db') :
    ∃ t, db'.find? schema.name = some t ∧ t.WellNamed ∧ t.columns = schema.columns.map Sql.storedColumn := by
  obtain ⟨_, hown, rfl⟩ := ensure_fresh hname hcolumns hfresh h
  rw [ensure_steps] at h
  obtain ⟨_, hrun⟩ := check_bind_eq_ok.mp h
  rw [mapError_eq_ok, runCreate, read_create hname hcolumns, ok_bind] at hrun
  dsimp only at hrun
  rw [create, hown, if_neg (by decide), find?_fresh hown hfresh] at hrun
  obtain ⟨hcheck, _⟩ := check_bind_eq_ok.mp hrun
  exact ⟨_, find?_add hown hfresh, ⟨storedColumns_plain hcolumns, nodup_of_checkColumns hcheck⟩, rfl⟩

end Database

end Herbarium
