import Herbarium.Proofs.Clause.Columns
import Herbarium.Proofs.Database.Conditions
import Herbarium.Proofs.Store.Runs

/-!
Selecting and deleting by filters.

A filter either passes a row of the table of specimens or not, `Filter.passes`, and filters that can be compiled and
answered, `Answerable`, select the rows that pass each of them (`Holds.select_answerable`). A deletion compiles the same
filters to the same clause but runs a statement of its own; it removes the very rows a selection shows
(`Holds.delete_answerable`), and both fail, with the same kind of error, when the filters are not answerable
(`Holds.not_answerable`). The rows of a store's table have different numbers, so a row stands for its place in the table
even if another row holds an equal specimen.
-/

namespace Herbarium

open Outcome
open Sql (Statement)

/-- The specimen in a row of the table of specimens. -/
def StoredRow.specimen (r : StoredRow) : Specimen :=
  (Store.readRow (Specimen.readCells r)).toOption.getD {}

/-- Whether a row of the table of specimens passes a filter. -/
def Filter.passes (f : Filter) (r : StoredRow) : Bool := (Specimen.table []).passes (Clause.condition f) r

/-- Whether a row passes all filters. -/
def Filter.allPass (fs : List Filter) (r : StoredRow) : Bool := fs.all fun f => f.passes r

theorem Filter.allPass_singleton (f : Filter) : allPass [f] = f.passes :=
  funext fun r => Bool.and_true (f.passes r)

namespace Store

variable {s : Store} {records : List Specimen} {fs gs : List Filter}

/-- The rows of a store, oldest first. -/
def rows (s : Store) : List StoredRow :=
  match s.database.find? Specimen.tableName with
  | some t => t.scan
  | none => []

/-- Filters that can be compiled, and whose conditions the table of specimens answers. -/
structure Answerable (fs : List Filter) : Prop where
  columns : ∀ f ∈ fs, Clause.IsColumn f.column.toList
  answers : (Specimen.table []).Answers (fs.map Clause.condition)

theorem rows_ofRows (rows : List StoredRow) : (ofRows rows).rows = rows.reverse := by
  rw [Store.rows, find?_ofRows]
  rfl

theorem specimen_of_cells {row : StoredRow} {r : Specimen} (hr : r.IsFinite) (h : row.cells = r.cells) :
    row.specimen = r := by
  rw [StoredRow.specimen, Specimen.readCells_eq h, readRow_entries hr]
  rfl

/-! ## The rows of a store that holds specimens -/

theorem cells_injective {r r' : Specimen} (h : r.cells = r'.cells) : r = r' := by
  cases r
  cases r'
  simpa [Specimen.cells, Field.all, Specimen.get] using h

/-- A row has the cells of its specimen, which is one the store holds. -/
theorem Holds.mem_rows (h : s.Holds records) {row : StoredRow} (hrow : row ∈ s.rows) :
    row.specimen ∈ records ∧ row.cells = row.specimen.cells := by
  obtain ⟨rows, rfl, _, hcells⟩ := h.rows
  rw [rows_ofRows] at hrow
  have hmem : row.cells ∈ records.map Specimen.cells := hcells ▸ List.mem_map_of_mem hrow
  obtain ⟨r, hr, hrc⟩ := List.mem_map.mp hmem
  rw [specimen_of_cells (h.finite r hr) hrc.symm]
  exact ⟨hr, hrc.symm⟩

theorem Holds.map_specimen (h : s.Holds records) : s.rows.map StoredRow.specimen = records := by
  have hspecimen : ∀ row ∈ s.rows, row.specimen.cells = row.cells := fun row hrow => (h.mem_rows hrow).2.symm
  obtain ⟨rows, rfl, _, hcells⟩ := h.rows
  rw [rows_ofRows] at hspecimen ⊢
  refine (List.map_inj_right fun r r' => cells_injective).mp ?_
  rw [List.map_map, ← hcells]
  exact List.map_congr_left hspecimen

/-- Without filters all rows are shown. -/
theorem Holds.select_none (h : s.Holds records) : s.select [] = .ok (s.rows.map StoredRow.specimen) := by
  rw [h.select, h.map_specimen]

theorem Holds.readRow_specimen (h : s.Holds records) {row : StoredRow} (hrow : row ∈ s.rows) :
    readRow (Specimen.readCells row) = .ok row.specimen := by
  obtain ⟨hmem, hcells⟩ := h.mem_rows hrow
  rw [Specimen.readCells_eq hcells, readRow_entries (h.finite _ hmem)]

theorem Holds.nodup_rows (h : s.Holds records) : s.rows.Nodup := by
  obtain ⟨rows, rfl, hfalling, _⟩ := h.rows
  rw [rows_ofRows]
  refine List.pairwise_reverse.mpr (hfalling.sorted.imp fun {a b} hlt => ?_)
  rintro rfl
  exact absurd hlt (Int.lt_irrefl _)

/-- What is left when rows are taken out of a store. -/
theorem Holds.erase (h : s.Holds records) (p : StoredRow → Bool) :
    ∃ records', Store.Holds { database := s.database.modify Specimen.tableName fun t => t.erase p } records' ∧
      Store.rows { database := s.database.modify Specimen.tableName fun t => t.erase p } =
        s.rows.filter fun r => !p r := by
  -- the rows that stay have the cells of specimens that were there
  have hkept : ∀ row ∈ s.rows.filter fun r => !p r, row.specimen ∈ records ∧ row.cells = row.specimen.cells :=
    fun row hrow => h.mem_rows (List.mem_filter.mp hrow).1
  have hmem : ∀ r ∈ (s.rows.filter fun r => !p r).map StoredRow.specimen, r ∈ records := by
    intro r hr
    obtain ⟨row, hrow, rfl⟩ := List.mem_map.mp hr
    exact (hkept row hrow).1
  obtain ⟨rows, rfl, hfalling, _⟩ := h.rows
  have hrows : (ofRows (rows.filter fun r => !p r)).rows = (ofRows rows).rows.filter fun r => !p r := by
    rw [rows_ofRows, rows_ofRows, List.filter_reverse]
  rw [erase_ofRows]
  refine ⟨((ofRows rows).rows.filter fun r => !p r).map StoredRow.specimen, ⟨⟨_, rfl, hfalling.filter _, ?_⟩, ?_, ?_⟩,
    hrows⟩
  · rw [← List.filter_reverse, ← rows_ofRows, List.map_map]
    exact List.map_congr_left fun row hrow => (hkept row hrow).2
  · intro r hr
    exact h.finite r (hmem r hr)
  · intro r hr
    exact h.unsigned r (hmem r hr)

/-- The store of a specimen that was inserted twice. -/
def twins (r : Specimen) : Store := (ofRows []).run [.insert [r, r] false]

theorem eq_of_mem_twins {r r' : Specimen} (h : r' ∈ [r, r]) : r' = r := by simpa using h

theorem twins_reachable {r : Specimen} (hr : r.Built) : (twins r).Reachable := by
  refine ⟨ofRows [], [.insert [r, r] false], ofDatabase_empty, ?_, rfl⟩
  refine List.forall_mem_singleton.mpr fun r' hr' => ?_
  exact eq_of_mem_twins hr' ▸ hr

theorem holds_twins {r : Specimen} (hr : r.Built) : (twins r).Holds [r.stored, r.stored] := by
  have hfinite : ∀ r' ∈ [r, r], r'.IsFinite := by
    intro r' hr'
    exact eq_of_mem_twins hr' ▸ hr.isFinite
  obtain ⟨s', hs', h'⟩ := holds_empty.insert_all hfinite
  have htwins : twins r = s' := after_ok (c := .insert [r, r] false) hs'
  rw [htwins]
  exact h'

/-! ## Filters that can be answered -/

theorem answers_table (rows : List StoredRow) {conditions : List Condition} :
    (Specimen.table rows).Answers conditions ↔ (Specimen.table []).Answers conditions :=
  ⟨fun h => ⟨h.admitted, h.known⟩, fun h => ⟨h.admitted, h.known⟩⟩

theorem passesAll_table (rows : List StoredRow) : (Specimen.table rows).passesAll fs = Filter.allPass fs := rfl

/-- A selection shows the specimens of the rows that pass all filters. -/
theorem Holds.select_answerable (h : s.Holds records) (hne : fs ≠ []) (ha : Answerable fs) :
    s.select fs = .ok ((s.rows.filter (Filter.allPass fs)).map StoredRow.specimen) := by
  have hread : ((s.rows.filter (Filter.allPass fs)).map Specimen.readCells).mapM readRow =
      .ok ((s.rows.filter (Filter.allPass fs)).map StoredRow.specimen) := by
    rw [List.mapM_map]
    exact mapM_eq_ok fun row hrow => h.readRow_specimen (List.mem_filter.mp hrow).1
  obtain ⟨rows, rfl, _, _⟩ := h.rows
  have hscan := Database.scan_filters Specimen.isPlain_tableName (find?_ofRows rows) (Specimen.wellNamed_table rows)
    (List.cons_ne_nil _ _) hne ha.columns ((answers_table rows).mpr ha.answers)
  have hrows : (Specimen.table rows).scan = (ofRows rows).rows := (rows_ofRows rows).symm
  rw [select_steps, hscan, ok_bind, passesAll_table, hrows]
  exact hread

/-- A deletion takes out the rows that pass all filters. -/
theorem Holds.delete_answerable (h : s.Holds records) (hne : fs ≠ []) (ha : Answerable fs) :
    s.delete fs = .ok ((s.rows.filter (Filter.allPass fs)).length,
      { database := s.database.modify Specimen.tableName fun t => t.erase (Filter.allPass fs) }) := by
  obtain ⟨rows, rfl, _, _⟩ := h.rows
  have hdelete := Database.delete_filters Specimen.isPlain_tableName (find?_ofRows rows)
    Specimen.isCatalogue_tableName rfl hne ha.columns ((answers_table rows).mpr ha.answers)
  have hlength : ((ofRows rows).rows.filter (Filter.allPass fs)).length = (rows.filter (Filter.allPass fs)).length := by
    rw [rows_ofRows, List.filter_reverse, List.length_reverse]
  rw [delete_steps, hdelete, map_ok, passesAll_table, hlength]
  rfl

/-! ## Filters that cannot be answered -/

/-- A selection and a deletion refuse the same filters, each with an error of the same kind. -/
theorem Holds.not_answerable (h : s.Holds records) (hne : fs ≠ []) (ha : ¬ Answerable fs) :
    (∃ detail, s.select fs = .error (.parse detail) ∧ s.delete fs = .error (.parse detail)) ∨
      ∃ detail detail', s.select fs = .error (.operation detail) ∧ s.delete fs = .error (.operation detail') := by
  by_cases hcolumns : ∀ f ∈ fs, Clause.IsColumn f.column.toList
  · right
    obtain ⟨rows, rfl, _, _⟩ := h.rows
    obtain ⟨clause, hclause, hconditions⟩ := Database.compileFilters_columns hne hcolumns
    have hno : ¬ (Specimen.table rows).Answers clause.conditions := fun hanswers =>
      ha ⟨hcolumns, hconditions ▸ (answers_table rows).mp hanswers⟩
    -- the two statements fail of the same conditions, each in its own text
    let query := Statement.select Specimen.columnNames Specimen.tableName (some clause)
    let deletion := Statement.delete Specimen.tableName (some clause)
    rcases Table.clause_cases (Specimen.table rows) (s := query) rfl with ⟨hyes, _⟩ | ⟨_, f, hf⟩
    · exact absurd hyes hno
    rcases Table.clause_cases (Specimen.table rows) (s := deletion) rfl with ⟨hyes, _⟩ | ⟨_, f', hf'⟩
    · exact absurd hyes hno
    refine ⟨f.message query.text, f'.message deletion.text, ?_, ?_⟩
    · rw [select_steps, Database.scan_steps, hclause, ok_bind, scanClause_ofRows, hf, mapError_error, error_bind]
      rfl
    · rw [delete_steps, Database.delete_steps, hclause, ok_bind]
      simp only [deleteClause_ofRows]
      rw [hf', mapError_error]
      rfl
  · left
    obtain ⟨detail, hdetail⟩ : ∃ detail, Database.compileFilters fs = .error (.parse detail) := by
      rcases Clause.isColumn_or_first fs with hall | ⟨pre, f, post, hfs, hpre, hf⟩
      · exact absurd hall hcolumns
      · refine ⟨(Clause.Fault.invalidColumn f.column).message, ?_⟩
        rw [Database.compileFilters, Clause.compile_eq_error_iff.mpr ⟨pre, f, post, hfs, hpre, hf, rfl⟩,
          mapError_error]
    refine ⟨detail, ?_, ?_⟩
    · rw [select_steps, Database.scan_steps, hdetail, error_bind, error_bind]
    · rw [delete_steps, Database.delete_steps, hdetail, error_bind]
      rfl

end Store

end Herbarium
