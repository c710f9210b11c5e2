import Herbarium.Proofs.Database.Frame
import Herbarium.Proofs.Sql.Creation

/-!
Schemas that are read back.

A table that a schema of plain names creates is found under its name, and the columns it is asked for are those of the
schema, in their order and with their names (`ensure_columns`). A type is read back from the declaration the table
keeps of it. Of the four types that is all but the type of nothing: its declaration is no type but a constraint, the
table keeps none, and a column without a declaration counts as one of text.
-/

namespace Herbarium

open Outcome
open Sql (Statement)

/-- The column that is read back from what a table keeps of a column. -/
def Column.readBack (c : Column) : Column := { c with type := if c.type = .null then .string else c.type }

theorem ColumnType.ofDeclaration_declaredType (type : ColumnType) :
    ofDeclaration (Sql.declaredType type) = if type = .null then .string else type := by
  cases type <;> decide

theorem Column.readBack_eq_self {c : Column} : c.readBack = c ↔ c.type ≠ .null := by
  obtain ⟨name, type⟩ := c
  cases type <;> simp [readBack]

theorem map_readBack_eq_self {columns : List Column} :
    columns.map Column.readBack = columns ↔ ∀ c ∈ columns, c.type ≠ .null := by
  induction columns with
  | nil => simp
  | cons c rest ih => rw [List.map_cons, List.cons.injEq, List.forall_mem_cons, ih, Column.readBack_eq_self]

theorem Schema.check_columns {schema : Schema} (h : schema.check = .ok ()) : schema.columns ≠ [] := by
  intro hempty
  rw [check, hempty] at h
  cases h

namespace Database

variable {db db' : Database} {schema : Schema}

theorem find?_tables_fresh {name : String} (hfresh : ∀ t ∈ db.tables, Text.sameFolded t.name name = false) :
    db.tables.find? (fun t => Text.sameFolded t.name name) = none := by
  rw [List.find?_eq_none]
  intro t ht
  rw [hfresh t ht]
  decide

theorem find?_fresh (hown : Sql.isReservedTable schema.name = false)
    (hfresh : ∀ t ∈ db.tables, Text.sameFolded t.name schema.name = false) : db.find? schema.name = none := by
  rw [Database.find?, isCatalogue_of_not_reserved hown, if_neg (by decide)]
  exact find?_tables_fresh hfresh

/-- A table is found by its name right after it was added, if there was none of that name. -/
theorem find?_add {t : Table} (hown : Sql.isReservedTable t.name = false)
    (hfresh : ∀ t' ∈ db.tables, Text.sameFolded t'.name t.name = false) : (db.add t).find? t.name = some t := by
  rw [Database.find?, isCatalogue_of_not_reserved hown, if_neg (by decide), add, List.find?_append,
    find?_tables_fresh hfresh, Option.none_or]
  exact List.find?_cons_of_pos (sameFolded_iff.mpr rfl)

/-- The database with the table of a schema. -/
def addSchema (db : Database) (schema : Schema) : Database :=
  db.add { name := schema.name, definition := schema.definition, columns := schema.columns.map Sql.storedColumn,
           rows := [] }

/-- A schema that is ensured where no table has its name is added as a table. -/
theorem ensure_fresh (hname : Sql.isPlain schema.name = true)
    (hcolumns : (schema.columns.map Column.name).all Sql.isPlain = true)
    (hfresh : ∀ t ∈ db.tables, Text.sameFolded t.name schema.name = false) (h : db.ensure schema = .ok db') :
    schema.columns ≠ [] ∧ Sql.isReservedTable schema.name = false ∧ db' = db.addSchema schema := by
  rw [ensure_steps] at h
  obtain ⟨hcheck, hrun⟩ := check_bind_eq_ok.mp h
  have hne := Schema.check_columns (mapError_eq_ok.mp hcheck)
  rw [mapError_eq_ok, runCreate, read_create hname hcolumns, ok_bind] at hrun
  dsimp only at hrun
  rw [create] at hrun
  cases hown : Sql.isReservedTable schema.name with
  | true =>
    rw [hown] at hrun
    cases hrun
  | false =>
    rw [hown, if_neg (by decide), find?_fresh hown hfresh] at hrun
    obtain ⟨_, hrun⟩ := check_bind_eq_ok.mp hrun
    obtain ⟨_, hrun⟩ := check_bind_eq_ok.mp hrun
    obtain ⟨_, hrun⟩ := check_bind_eq_ok.mp hrun
    split at hrun
    · cases hrun
    · cases hrun
      exact ⟨hne, rfl, rfl⟩

theorem tableColumns_addSchema (hown : Sql.isReservedTable schema.name = false)
    (hfresh : ∀ t ∈ db.tables, Text.sameFolded t.name schema.name = false) :
    (db.addSchema schema).tableColumns schema.name = schema.columns.map Column.readBack := by
  have hfind := find?_add (t := ⟨schema.name, schema.definition, schema.columns.map Sql.storedColumn, []⟩) hown hfresh
  rw [tableColumns, Database.columns, addSchema, hfind, List.map_map]
  refine List.map_congr_left fun c _ => ?_
  rw [Column.readBack, ← ColumnType.ofDeclaration_declaredType]
  rfl

theorem schemaOf_of_columns {name : String} (hne : db.tableColumns name ≠ []) :
    db.schemaOf name = .ok { name, columns := db.tableColumns name } := by
  rw [schemaOf_steps, Database.schema?]
  cases hcolumns : db.tableColumns name with
  | nil => exact absurd hcolumns hne
  | cons c cs => rfl

/-- The statement that creates the table of a schema is read as the columns of the schema, and once it ran, the table's
columns and schema are those of the schema, columns of nothing read back as columns of text. They are the same exactly
if the schema has no column of nothing. -/
theorem ensure_columns (hname : Sql.isPlain schema.name = true)
    (hcolumns : (schema.columns.map Column.name).all Sql.isPlain = true)
    (hfresh : ∀ t ∈ db.tables, Text.sameFolded t.name schema.name = false) (h : db.ensure schema = .ok db') :
    (Statement.create schema).readText = .ok (.create schema.name (schema.columns.map Sql.storedColumn) none) ∧
    db'.tableColumns schema.name = schema.columns.map Column.readBack ∧
    db'.schemaOf schema.name = .ok { schema with columns := schema.columns.map Column.readBack } ∧
    (db'.tableColumns schema.name = schema.columns ↔ ∀ c ∈ schema.columns, c.type ≠ .null) ∧
    (db'.schemaOf schema.name = .ok schema ↔ ∀ c ∈ schema.columns, c.type ≠ .null) := by
  obtain ⟨hne, hown, rfl⟩ := ensure_fresh hname hcolumns hfresh h
  have hread := tableColumns_addSchema hown hfresh
  have hschema : (db.addSchema schema).schemaOf schema.name =
      .ok { schema with columns := schema.columns.map Column.readBack } := by
    rw [schemaOf_of_columns (by rw [hread]; exact fun hnil => hne (List.map_eq_nil_iff.mp hnil)), hread]
  have hnames : ∀ c ∈ schema.columns, Sql.isPlain c.name = true := fun c hc =>
    List.all_eq_true.mp hcolumns c.name (List.mem_map_of_mem hc)
  refine ⟨Sql.readText_create hname hown hne hnames, hread, hschema, ?_, ?_⟩
  · rw [hread, map_readBack_eq_self]
  · rw [hschema, ← map_readBack_eq_self]
    obtain ⟨name, columns⟩ := schema
    simp

/-- A schema with a column of each type. -/
def samples : Schema :=
  { name := "samples",
    columns := [{ name := "note", type := .null }, { name := "count", type := .integer },
                { name := "width", type := .float }, { name := "label", type := .string }] }

theorem ensure_samples : empty.ensure samples = .ok (empty.addSchema samples) := by
  decide +kernel

theorem ensure_columns_samples :
    Sql.isPlain samples.name = true ∧ (samples.columns.map Column.name).all Sql.isPlain = true ∧
    empty.ensure samples = .ok (empty.addSchema samples) ∧
    (Statement.create samples).readText = .ok (.create samples.name (samples.columns.map Sql.storedColumn) none) ∧
    (empty.addSchema samples).tableColumns samples.name = samples.columns.map Column.readBack ∧
    (empty.addSchema samples).schemaOf samples.name =
      .ok { samples with columns := samples.columns.map Column.readBack } := by
  have hname : Sql.isPlain samples.name = true := by decide
  have hcolumns : (samples.columns.map Column.name).all Sql.isPlain = true := by decide
  obtain ⟨htext, hread, hschema, _⟩ := ensure_columns hname hcolumns (fun t ht => absurd ht List.not_mem_nil)
    ensure_samples
  exact ⟨hname, hcolumns, ensure_samples, htext, hread, hschema⟩

/-- A column of nothing is not read back as it was declared. -/
theorem ensure_columns_null :
    Sql.isPlain "t" = true ∧ Sql.isPlain "a" = true ∧
    ∃ db', empty.ensure { name := "t", columns := [{ name := "a", type := .null }] } = .ok db' ∧
      db'.tableColumns "t" = [{ name := "a", type := .string }] ∧
      db'.schemaOf "t" ≠ .ok { name := "t", columns := [{ name := "a", type := .null }] } :=
  ⟨by decide, by decide, _, rfl, rfl, by decide +kernel⟩

end Database

end Herbarium
