import Herbarium.Proofs.Database.Schemas
import Mathlib.Data.List.Nodup

/-!
Columns of the same name.

A schema is checked for a name that came before letter for letter, a new table for one that came before in any case of
its ASCII letters. Both look for the first repetition, the one among the names (`Schema.check_eq_ok`), the other among
the names in lower case (`checkColumns_cases`). So on an empty database the table of a schema that passes its check is
created exactly if no two of its names differ in case only (`ensure_checked`).
-/

namespace Herbarium

open Outcome
open Sql (Statement)

namespace Schema

variable {schema : Schema}

/-- The names of the columns. -/
def names (s : Schema) : List String := s.columns.map Column.name

/-- The names of the columns as a database tells them apart. -/
def foldedNames (s : Schema) : List String := s.names.map Text.asciiFold

/-- No two different names of the columns differ in case only. -/
def CasesApart (s : Schema) : Prop := ∀ name ∈ s.names, ∀ other ∈ s.names,
  Text.asciiFold name = Text.asciiFold other → name = other

theorem firstRepeat_eq_none {seen names : List String} :
    firstRepeat seen names = none ↔ names.Nodup ∧ ∀ name ∈ names, name ∉ seen := by
  induction names generalizing seen with
  | nil => simp [firstRepeat]
  | cons name rest ih =>
    rw [firstRepeat, List.nodup_cons, List.forall_mem_cons]
    by_cases hseen : name ∈ seen
    · simp [hseen]
    · rw [if_neg hseen, ih]
      -- no later name was seen by then exactly if it is neither this one nor one seen before
      have hlater : (∀ other ∈ rest, other ∉ name :: seen) ↔ name ∉ rest ∧ ∀ other ∈ rest, other ∉ seen := by
        simp only [List.mem_cons, not_or, forall_and]
        refine and_congr_left fun _ => ?_
        exact ⟨fun h hname => h name hname rfl, fun h other hother heq => h (heq ▸ hother)⟩
      rw [hlater]
      exact ⟨fun ⟨hnodup, hname, hrest⟩ => ⟨⟨hname, hnodup⟩, hseen, hrest⟩,
        fun ⟨⟨hname, hnodup⟩, _, hrest⟩ => ⟨hnodup, hname, hrest⟩⟩

theorem firstRepeat_nil_eq_none {names : List String} : firstRepeat [] names = none ↔ names.Nodup := by
  rw [firstRepeat_eq_none]
  exact and_iff_left fun name _ => List.not_mem_nil

/-- A schema passes its check exactly if it has columns and their names differ. -/
theorem check_eq_ok : schema.check = .ok () ↔ schema.columns ≠ [] ∧ schema.names.Nodup := by
  rw [check, ← names, ← firstRepeat_nil_eq_none]
  by_cases hempty : schema.columns = []
  · simp [hempty]
  · rw [if_neg (by simpa using hempty)]
    cases firstRepeat [] schema.names <;> simp [hempty]

/-- Names differ in any case exactly if they differ, and not in case only. -/
theorem nodup_foldedNames : schema.foldedNames.Nodup ↔ schema.names.Nodup ∧ schema.CasesApart := by
  constructor
  · intro h
    exact ⟨List.Nodup.of_map _ h, fun name hname other hother => List.inj_on_of_nodup_map h hname hother⟩
  · rintro ⟨hnodup, hcases⟩
    exact List.Nodup.map_on hcases hnodup

end Schema

/-- The columns of a new table are refused for the first one whose name came before in any case, unless there are too
many, and for nothing else. -/
theorem checkColumns_cases {table : String} {columns : List StoredColumn} {seen : List String} :
    (Schema.firstRepeat seen (columns.map fun c => Text.asciiFold c.name) = none ∧
      checkColumns table seen columns = .ok ()) ∨
    (∃ column ∈ columns,
      Schema.firstRepeat seen (columns.map fun c => Text.asciiFold c.name) = some (Text.asciiFold column.name) ∧
        checkColumns table seen columns = .error (.duplicateColumn column.name)) ∨
    columnLimit < seen.length + columns.length ∧ checkColumns table seen columns = .error (.tooManyColumns table) := by
  induction columns generalizing seen with
  | nil => exact Or.inl ⟨rfl, rfl⟩
  | cons c columns ih =>
    rw [checkColumns, List.map_cons, Schema.firstRepeat, List.length_cons]
    by_cases hmany : columnLimit ≤ seen.length
    · rw [if_pos hmany]
      exact Or.inr (Or.inr ⟨by omega, rfl⟩)
    · rw [if_neg hmany]
      by_cases hseen : Text.asciiFold c.name ∈ seen
      · rw [if_pos hseen, if_pos hseen]
        exact Or.inr (Or.inl ⟨c, List.mem_cons_self, rfl, rfl⟩)
      · rw [if_neg hseen, if_neg hseen]
        rcases @ih (Text.asciiFold c.name :: seen) with hok | ⟨column, hcolumn, herror⟩ | ⟨hlimit, herror⟩
        · exact Or.inl hok
        · exact Or.inr (Or.inl ⟨column, List.mem_cons_of_mem c hcolumn, herror⟩)
        · rw [List.length_cons] at hlimit
          exact Or.inr (Or.inr ⟨by omega, herror⟩)

theorem nodup_of_checkColumns {table : String} {columns : List StoredColumn}
    (h : checkColumns table [] columns = .ok ()) : (columns.map fun c => Text.asciiFold c.name).Nodup := by
  rcases @checkColumns_cases table columns [] with ⟨hnone, _⟩ | ⟨_, _, _, herror⟩ | ⟨_, herror⟩
  · exact Schema.firstRepeat_nil_eq_none.mp hnone
  · rw [herror] at h
    cases h
  · rw [herror] at h
    cases h

namespace Database

variable {schema : Schema}

theorem asciiFold_ne_if {name : String} (h : Sql.isPlain name = true) : Text.asciiFold name ≠ "if" := by
  simp only [Sql.isPlain, Bool.and_eq_true, Bool.not_eq_true', Bool.or_eq_false_iff, beq_eq_false_iff_ne] at h
  exact h.2.2

/-- On an empty database a statement that creates a table of plain names fails of its columns only. -/
theorem runCreate_empty (hname : Sql.isPlain schema.name = true) (hcolumns : schema.names.all Sql.isPlain = true)
    (hown : Sql.isReservedTable schema.name = false) :
    empty.runCreate schema = (checkColumns schema.name [] (schema.columns.map Sql.storedColumn)).map
      fun _ => empty.addSchema schema := by
  have hfind : empty.find? schema.name = none := find?_fresh hown fun t ht => absurd ht List.not_mem_nil
  rw [runCreate, read_create hname hcolumns, ok_bind]
  dsimp only
  rw [create, hown, if_neg (by decide), hfind]
  cases checkColumns schema.name [] (schema.columns.map Sql.storedColumn) with
  | error f => rfl
  | ok _ =>
    simp only [pure_eq_ok, ok_bind, checkRest, checkWritable_ok (show empty.writable = true from rfl),
      if_neg (asciiFold_ne_if hname)]
    rfl

/-- On an empty database the table of a schema of plain names is created, or a column is reported whose name came before
in another case. -/
theorem runCreate_cases (hname : Sql.isPlain schema.name = true) (hcolumns : schema.names.all Sql.isPlain = true)
    (hown : Sql.isReservedTable schema.name = false) (hlimit : schema.columns.length ≤ columnLimit) :
    (schema.foldedNames.Nodup ∧ empty.runCreate schema = .ok (empty.addSchema schema)) ∨
    (¬ schema.foldedNames.Nodup ∧ ∃ name ∈ schema.names,
      Schema.firstRepeat [] schema.foldedNames = some (Text.asciiFold name) ∧
        empty.runCreate schema = .error (.duplicateColumn name)) := by
  have hfolded : ((schema.columns.map Sql.storedColumn).map fun c => Text.asciiFold c.name) = schema.foldedNames := by
    rw [Schema.foldedNames, Schema.names, List.map_map, List.map_map]
    rfl
  have hcheck := @checkColumns_cases schema.name (schema.columns.map Sql.storedColumn) []
  rw [hfolded] at hcheck
  rw [runCreate_empty hname hcolumns hown, ← Schema.firstRepeat_nil_eq_none]
  rcases hcheck with ⟨hnone, hok⟩ | ⟨stored, hstored, hrepeat, herror⟩ | ⟨hmany, _⟩
  · exact Or.inl ⟨hnone, by rw [hok, map_ok]⟩
  · obtain ⟨column, hcolumn, rfl⟩ := List.mem_map.mp hstored
    refine Or.inr ⟨by rw [hrepeat]; exact Option.some_ne_none _, column.name, List.mem_map_of_mem hcolumn, hrepeat, ?_⟩
    rw [herror]
    rfl
  · rw [List.length_nil, List.length_map] at hmany
    omega

/-- The check of a schema against the database's own, for plain names that are not too many. A schema passes exactly if
it has columns and their names differ letter for letter; an empty database accepts its statement, which is read as its
columns, exactly if the names differ in any case. The two agree exactly if names that differ do not do so in case only.
A schema that passes is then created; one that passes otherwise is refused, for the first column whose name came before
in another case. -/
theorem ensure_checked (hname : Sql.isPlain schema.name = true) (hcolumns : schema.names.all Sql.isPlain = true)
    (hown : Sql.isReservedTable schema.name = false) (hlimit : schema.columns.length ≤ columnLimit) :
    (schema.check = .ok () ↔ schema.columns ≠ [] ∧ schema.names.Nodup) ∧
    (schema.columns ≠ [] →
      (Statement.create schema).readText = .ok (.create schema.name (schema.columns.map Sql.storedColumn) none) ∧
      ((∃ db, empty.runCreate schema = .ok db) ↔ schema.foldedNames.Nodup)) ∧
    ((schema.check = .ok () ↔ schema.columns ≠ [] ∧ ∃ db, empty.runCreate schema = .ok db) ↔
      (schema.names.Nodup → schema.CasesApart)) ∧
    (schema.check = .ok () →
      (schema.CasesApart → empty.ensure schema = .ok (empty.addSchema schema)) ∧
      (¬ schema.CasesApart → ∃ name ∈ schema.names,
        Schema.firstRepeat [] schema.foldedNames = some (Text.asciiFold name) ∧
          empty.ensure schema = .error (operationError (.duplicateColumn name) schema.createSql))) := by
  have hplain : ∀ c ∈ schema.columns, Sql.isPlain c.name = true := fun c hc =>
    List.all_eq_true.mp hcolumns c.name (List.mem_map_of_mem hc)
  have hcases := runCreate_cases hname hcolumns hown hlimit
  have haccepted : (∃ db, empty.runCreate schema = .ok db) ↔ schema.foldedNames.Nodup := by
    rcases hcases with ⟨hnodup, hok⟩ | ⟨hrepeat, name, _, _, herror⟩
    · exact iff_of_true ⟨_, hok⟩ hnodup
    · refine iff_of_false ?_ hrepeat
      rintro ⟨db, hok⟩
      rw [herror] at hok
      cases hok
  refine ⟨Schema.check_eq_ok, fun hne => ⟨Sql.readText_create hname hown hne hplain, haccepted⟩, ?_, fun hcheck => ?_⟩
  · rw [Schema.check_eq_ok, haccepted, Schema.nodup_foldedNames]
    by_cases hempty : schema.columns = []
    · have hnames : schema.names = [] := by rw [Schema.names, hempty, List.map_nil]
      simp [hempty, hnames, Schema.CasesApart]
    · simp [hempty]
  · obtain ⟨_, hnodup⟩ := Schema.check_eq_ok.mp hcheck
    rw [Schema.nodup_foldedNames] at hcases
    rw [ensure_steps, hcheck, mapError_ok, ok_bind]
    rcases hcases with ⟨⟨_, hapart⟩, hok⟩ | ⟨hrepeat, name, hmem, hfirst, herror⟩
    · exact ⟨fun _ => by rw [hok, mapError_ok], fun h => absurd hapart h⟩
    · refine ⟨fun hapart => absurd ⟨hnodup, hapart⟩ hrepeat, fun _ => ⟨name, hmem, hfirst, ?_⟩⟩
      rw [herror, mapError_error]

/-- Two columns of which one is called as the other begins. -/
def plots : Schema :=
  { name := "plots", columns := [{ name := "Area", type := .float }, { name := "areas", type := .null }] }

theorem ensure_checked_plots :
    (plots.check = .ok () ↔ plots.columns ≠ [] ∧ plots.names.Nodup) ∧ plots.CasesApart ∧
    empty.ensure plots = .ok (empty.addSchema plots) := by
  have hapart : plots.CasesApart := by
    unfold Schema.CasesApart
    decide
  obtain ⟨hcheck, _, _, hensure⟩ :=
    @ensure_checked plots (by decide) (by decide) (by decide) (by decide)
  exact ⟨hcheck, hapart, (hensure (hcheck.mpr (by decide))).1 hapart⟩

/-- A schema that passes its check and is not accepted: its two columns have one name in two cases. -/
def cased : Schema := { name := "t", columns := [{ name := "a", type := .float }, { name := "A", type := .string }] }

theorem ensure_checked_cased :
    Sql.isPlain cased.name = true ∧ cased.names.all Sql.isPlain = true ∧ Sql.isReservedTable cased.name = false ∧
    cased.check = .ok () ∧ (¬ ∃ db, empty.runCreate cased = .ok db) ∧
    empty.ensure cased = .error (operationError (.duplicateColumn "A") cased.createSql) := by
  have hrun : empty.runCreate cased = .error (.duplicateColumn "A") := by rfl
  refine ⟨by decide, by decide, by decide, rfl, ?_, rfl⟩
  rintro ⟨db, hok⟩
  rw [hrun] at hok
  cases hok

end Database

end Herbarium
