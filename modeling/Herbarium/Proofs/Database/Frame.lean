import Herbarium.Proofs.Database.Sessions

/-!
What operations leave alone.

An operation names one table, regardless of the case of its letters, and changes no other (`Change`): it adds that
table, changes the rows of it, or changes nothing. Since the names in a statement are plain, a scan asks for the columns
of its own table only, and sees nothing of the change (`scanClause_congr`). An operation that fails or only reads
changes nothing at all. What plain operations lead to is again a database of plain columns (`Reached.plain`), so all
this holds along every run (`perform_frame`).
-/

namespace Herbarium

open Outcome
open Sql (Statement)

/-- Whether the names of a table's columns are all plain. -/
def Table.HasPlainColumns (t : Table) : Prop := ∀ c ∈ t.columns, Sql.isPlain c.name = true

namespace Database

/-- An operation of a session. -/
inductive Operation where
  | ensure (schema : Schema)
  | insertRow (table : String) (row : Row)
  | scanClause (table : String) (clause : Option Clause)
  | scan (table : String) (filters : List Filter)
  | deleteClause (table : String) (clause : Clause)
  | delete (table : String) (filters : List Filter)
  | deleteAll (table : String)
  | tableColumns (table : String)
  | schema? (table : String)
  | schemaOf (table : String)

/-- What an operation answers. -/
inductive Answer where
  | done
  | count (n : Nat)
  | rows (rows : List Row)
  | columns (columns : List Column)
  | schema (schema : Option Schema)

namespace Operation

/-- The steps of an operation. -/
def session : Operation → Session Answer
  | ensure schema => (fun _ => .done) <$> Session.ensure schema
  | insertRow table row => .count <$> Session.insertRow table row
  | scanClause table clause => .rows <$> Session.scanClause table clause
  | scan table filters => .rows <$> Session.scan table filters
  | deleteClause table clause => .count <$> Session.deleteClause table (some clause)
  | delete table filters => .count <$> Session.delete table filters
  | deleteAll table => .count <$> Session.deleteAll table
  | tableColumns table => .columns <$> Session.tableColumns table
  | schema? table => .schema <$> Session.schema? table
  | schemaOf table => (fun s => .schema (some s)) <$> Session.schemaOf table

/-- The table an operation names. -/
def table : Operation → String
  | ensure schema => schema.name
  | insertRow table _ | scanClause table _ | scan table _ | deleteClause table _ | delete table _ | deleteAll table
  | tableColumns table | schema? table | schemaOf table => table

/-- The columns an operation names, those of filters apart. -/
def columns : Operation → List String
  | ensure schema => schema.columns.map Column.name
  | insertRow _ row => row.map Prod.fst
  | _ => []

/-- Whether an operation only reads. -/
def IsReading : Operation → Prop
  | scanClause _ _ | scan _ _ | tableColumns _ | schema? _ | schemaOf _ => True
  | ensure _ | insertRow _ _ | deleteClause _ _ | delete _ _ | deleteAll _ => False

/-- An operation whose names are plain, and whose table is not set aside for the database. -/
structure IsPlain (op : Operation) : Prop where
  table : Sql.isPlain op.table = true
  own : Sql.isReservedTable op.table = false
  columns : op.columns.all Sql.isPlain = true

end Operation

/-- The outcome of an operation, and the database after it. -/
def perform (db : Database) (op : Operation) : Except Error Answer × Database := op.session.on db

/-- The database after operations, whether they fail or not. -/
def run (db : Database) (ops : List Operation) : Database := ops.foldl (fun db op => (db.perform op).2) db

/-- A database whose columns all have plain names. -/
def HasPlainColumns (db : Database) : Prop := ∀ t ∈ db.tables, t.HasPlainColumns

/-- What plain operations make of a database of plain columns. -/
def Reached (db : Database) : Prop :=
  ∃ start ops, HasPlainColumns start ∧ (∀ op ∈ ops, op.IsPlain) ∧ db = start.run ops

variable {db db' : Database} {table name : String} {op : Operation}

/-! ## Operations that change nothing -/

theorem Operation.session_isWhole (op : Operation) : op.session.IsWhole := by
  cases op with
  | ensure schema => exact (Session.ensure_isWhole schema).map _
  | insertRow table row => exact (Session.insertRow_isWhole table row).map _
  | scanClause table clause => exact (Session.scanClause_reads table clause).isWhole.map _
  | scan table filters => exact (Session.scan_reads table filters).isWhole.map _
  | deleteClause table clause => exact (Session.deleteClause_isWhole table (some clause)).map _
  | delete table filters => exact (Session.delete_isWhole table filters).map _
  | deleteAll table => exact (Session.deleteAll_isWhole table).map _
  | tableColumns table => exact (Session.tableColumns_reads table).isWhole.map _
  | schema? table => exact (Session.schema?_reads table).isWhole.map _
  | schemaOf table => exact (Session.schemaOf_reads table).isWhole.map _

theorem Operation.session_reads (h : op.IsReading) : op.session.Reads := by
  cases op with
  | scanClause table clause => exact (Session.scanClause_reads table clause).map _
  | scan table filters => exact (Session.scan_reads table filters).map _
  | tableColumns table => exact (Session.tableColumns_reads table).map _
  | schema? table => exact (Session.schema?_reads table).map _
  | schemaOf table => exact (Session.schemaOf_reads table).map _
  | ensure _ | insertRow _ _ | deleteClause _ _ | delete _ _ | deleteAll _ => exact h.elim

theorem perform_error {e : Error} (h : (db.perform op).1 = .error e) : (db.perform op).2 = db :=
  op.session_isWhole db e h

theorem perform_reading (h : op.IsReading) : (db.perform op).2 = db := Operation.session_reads h db

/-! ## Operations that change a table -/

/-- What an operation on a table may make of a database. -/
inductive Change (db : Database) (table : String) : Database → Prop where
  | nothing : Change db table db
  | added {t : Table} : t.name = table → t.HasPlainColumns → Change db table (db.add t)
  | modified {f : Table → Table} :
      (∀ t ∈ db.tables, Text.sameFolded t.name table = true →
        ∃ t₀ ∈ db.tables, Text.sameFolded t₀.name table = true ∧ (f t).name = t₀.name ∧ (f t).columns = t₀.columns) →
      Change db table (db.modify table f)

theorem sameFolded_iff {s t : String} : Text.sameFolded s t = true ↔ Text.asciiFold s = Text.asciiFold t := beq_iff_eq

/-- A table that is not looked for may change as long as it is not looked for after that. -/
theorem find?_map_other {p : Table → Bool} {g : Table → Table} {tables : List Table}
    (h : ∀ t ∈ tables, g t = t ∨ (p t = false ∧ p (g t) = false)) : (tables.map g).find? p = tables.find? p := by
  induction tables with
  | nil => rfl
  | cons t tables ih =>
    have hrest := ih fun t' ht' => h t' (List.mem_cons_of_mem t ht')
    rw [List.map_cons, List.find?_cons, List.find?_cons, hrest]
    rcases h t List.mem_cons_self with hsame | ⟨hbefore, hafter⟩
    · rw [hsame]
    · rw [hbefore, hafter]

/-- A change leaves the tables of other names where they are. -/
theorem Change.find? (h : Change db table db') (hne : Text.sameFolded name table = false)
    (hc : isCatalogue name = false) : db'.find? name = db.find? name := by
  have hother : ∀ t : Table, Text.sameFolded t.name table = true → Text.sameFolded t.name name = false := by
    intro t ht
    rw [Bool.eq_false_iff, ne_eq, sameFolded_iff] at hne ⊢
    intro hname
    exact hne (hname.symm.trans (sameFolded_iff.mp ht))
  cases h with
  | nothing => rfl
  | @added t hname _ =>
    have hskip : Text.sameFolded t.name name = false := hother t (by rw [hname]; exact sameFolded_iff.mpr rfl)
    simp only [Database.find?, hc, Bool.false_eq_true, if_false, add, List.find?_append, List.find?_cons, hskip,
      List.find?_nil, Option.or_none]
  | @modified f hf =>
    simp only [Database.find?, hc, Bool.false_eq_true, if_false, modify]
    refine find?_map_other fun t ht => ?_
    by_cases hsame : Text.sameFolded t.name table = true
    · obtain ⟨t₀, _, hsame₀, hname, _⟩ := hf t ht hsame
      refine Or.inr ⟨hother t hsame, ?_⟩
      rw [if_pos hsame, hname]
      exact hother t₀ hsame₀
    · exact Or.inl (if_neg hsame)

theorem Change.plain (h : Change db table db') (hdb : db.HasPlainColumns) : db'.HasPlainColumns := by
  cases h with
  | nothing => exact hdb
  | @added t _ ht =>
    intro t' ht'
    rcases List.mem_append.mp ht' with hold | hnew
    · exact hdb t' hold
    · obtain rfl := List.mem_singleton.mp hnew
      exact ht
  | @modified f hf =>
    intro t' ht'
    obtain ⟨t, ht, rfl⟩ := List.mem_map.mp ht'
    by_cases hsame : Text.sameFolded t.name table = true
    · obtain ⟨t₀, ht₀, _, _, hcolumns⟩ := hf t ht hsame
      rw [if_pos hsame, Table.HasPlainColumns, hcolumns]
      exact hdb t₀ ht₀
    · rw [if_neg hsame]
      exact hdb t ht

theorem isCatalogue_of_not_reserved (h : Sql.isReservedTable name = false) : isCatalogue name = false := by
  rw [isCatalogue, decide_eq_false_iff_not]
  intro hmem
  rw [Sql.isReservedTable] at h
  rcases List.mem_cons.mp hmem with heq | hmem
  · rw [heq] at h
    exact absurd h (by decide)
  · rw [List.mem_singleton.mp hmem] at h
    exact absurd h (by decide)

theorem mem_of_find? {t : Table} (hf : db.find? name = some t) (hc : isCatalogue name = false) :
    t ∈ db.tables ∧ Text.sameFolded t.name name = true := by
  simp only [Database.find?, hc, Bool.false_eq_true, if_false] at hf
  exact ⟨List.mem_of_find?_eq_some hf, by simpa using List.find?_some hf⟩

/-! ## The change of each statement -/

theorem read_create {schema : Schema} (hname : Sql.isPlain schema.name = true)
    (hcolumns : (schema.columns.map Column.name).all Sql.isPlain = true) :
    (Statement.create schema).read = .ok (.create schema.name (schema.columns.map Sql.storedColumn) none) := by
  rw [List.all_map] at hcolumns
  have hplain : (Statement.create schema).plain? =
      some (.create schema.name (schema.columns.map Sql.storedColumn) none) := by
    rw [Statement.plain?, if_pos]
    rw [hname]
    exact hcolumns
  simp [Statement.read, hplain, Sql.Action.isConditioned, Statement.checkClause, Statement.clause?]

theorem storedColumns_plain {schema : Schema} (h : (schema.columns.map Column.name).all Sql.isPlain = true) :
    ∀ c ∈ schema.columns.map Sql.storedColumn, Sql.isPlain c.name = true := by
  intro c hc
  obtain ⟨column, hcolumn, rfl⟩ := List.mem_map.mp hc
  exact List.all_eq_true.mp h column.name (List.mem_map_of_mem hcolumn)

theorem ensure_exists {schema : Schema} (hname : Sql.isPlain schema.name = true)
    (hcolumns : (schema.columns.map Column.name).all Sql.isPlain = true)
    (hown : Sql.isReservedTable schema.name = false) (hcheck : schema.check = .ok ())
    (hexists : (db.find? schema.name).isSome = true) : db.ensure schema = .ok db := by
  obtain ⟨t, ht⟩ := Option.isSome_iff_exists.mp hexists
  simp [ensure_steps, hcheck, runCreate, read_create hname hcolumns, create, hown, ht, checkRest]

theorem change_ensure {schema : Schema} (hname : Sql.isPlain schema.name = true)
    (hcolumns : (schema.columns.map Column.name).all Sql.isPlain = true) (h : db.ensure schema = .ok db') :
    Change db schema.name db' := by
  rw [ensure_steps] at h
  obtain ⟨_, hrun⟩ := check_bind_eq_ok.mp h
  rw [mapError_eq_ok, runCreate, read_create hname hcolumns, ok_bind] at hrun
  dsimp only at hrun
  rw [create] at hrun
  split at hrun
  · cases hrun
  · dsimp only at hrun
    split at hrun
    · cases hrun
      exact .nothing
    · obtain ⟨_, hrun⟩ := check_bind_eq_ok.mp hrun
      obtain ⟨_, hrun⟩ := check_bind_eq_ok.mp hrun
      obtain ⟨_, hrun⟩ := check_bind_eq_ok.mp hrun
      split at hrun
      · cases hrun
      · cases hrun
        exact .added rfl (storedColumns_plain hcolumns)

theorem changeable_ok {t : Table} (h : db.changeable { name } = .ok t) :
    db.find? name = some t ∧ isCatalogue name = false := by
  obtain ⟨t₁, htable, h⟩ := bind_eq_ok.mp h
  cases hc : isCatalogue name with
  | true =>
    rw [hc] at h
    cases h
  | false =>
    rw [hc] at h
    cases h
    refine ⟨?_, rfl⟩
    rw [Database.table, Sql.TableName.isKnown, Option.all_none, if_pos rfl] at htable
    cases hf : db.find? name with
    | none =>
      rw [hf] at htable
      cases htable
    | some t₂ =>
      rw [hf] at htable
      cases htable
      rfl

theorem insertRow_ok {t t' : Table} {assignments : List (Target × Value)} (h : t.insertRow assignments = .ok t') :
    t'.name = t.name ∧ t'.columns = t.columns := by
  obtain ⟨number, _, h⟩ := bind_eq_ok.mp h
  cases h
  exact ⟨rfl, rfl⟩

theorem change_insert {row : Row} {n : Nat} (hname : Sql.isPlain table = true)
    (hcolumns : (row.map Prod.fst).all Sql.isPlain = true) (h : db.insertRow table row = .ok (n, db')) :
    Change db table db' := by
  rw [insertRow_steps] at h
  obtain ⟨db₁, hrun, h⟩ := bind_eq_ok.mp h
  cases h
  rw [mapError_eq_ok, runInsert, Statement.read_insert hname hcolumns, ok_bind] at hrun
  dsimp only at hrun
  split at hrun
  · cases hrun
  · dsimp only [Database.insert] at hrun
    obtain ⟨t, ht, hrun⟩ := bind_eq_ok.mp hrun
    obtain ⟨targets, _, hrun⟩ := bind_eq_ok.mp hrun
    split at hrun
    · cases hrun
    · obtain ⟨_, hrun⟩ := check_bind_eq_ok.mp hrun
      obtain ⟨t', ht', hrun⟩ := bind_eq_ok.mp hrun
      cases hrun
      obtain ⟨hf, hc⟩ := changeable_ok ht
      obtain ⟨hmem, hsame⟩ := mem_of_find? hf hc
      obtain ⟨hname', hcolumns'⟩ := insertRow_ok ht'
      exact .modified fun _ _ _ => ⟨t, hmem, hsame, hname', hcolumns'⟩

theorem change_delete {clause : Option Clause} {n : Nat} (hname : Sql.isPlain table = true)
    (h : db.deleteClause table clause = .ok (n, db')) : Change db table db' := by
  rw [deleteClause_steps, mapError_eq_ok, runDelete, Statement.read_delete clause hname] at h
  obtain ⟨action, haction, h⟩ := bind_eq_ok.mp h
  obtain ⟨_, haction⟩ := check_bind_eq_ok.mp haction
  cases haction
  obtain ⟨t, _, h⟩ := bind_eq_ok.mp h
  obtain ⟨bound, _, h⟩ := bind_eq_ok.mp h
  obtain ⟨_, h⟩ := check_bind_eq_ok.mp h
  cases h
  exact .modified fun t ht hsame => ⟨t, ht, hsame, rfl, rfl⟩

/-! ## One operation -/

theorem change_session {α β : Type} {s : Session α} {g : α → β} (hwhole : s.IsWhole)
    (h : ∀ a db', s.effect db = .ok (a, db') → Change db table db') : Change db table ((g <$> s).on db).2 := by
  rw [Session.map_on, hwhole.on_eq]
  cases heffect : s.effect db with
  | error e => exact .nothing
  | ok p => exact h p.1 p.2 heffect

theorem change_perform (hop : op.IsPlain) : Change db op.table (db.perform op).2 := by
  obtain ⟨hname, _, hcolumns⟩ := hop
  have hread : op.IsReading → Change db op.table (db.perform op).2 := fun h => by
    rw [perform_reading h]
    exact .nothing
  cases op with
  | ensure schema =>
    refine change_session (Session.ensure_isWhole schema) fun _ db' h => change_ensure hname hcolumns ?_
    rw [ensure, h, map_ok]
  | insertRow table row =>
    exact change_session (Session.insertRow_isWhole table row) fun n db' h => change_insert hname hcolumns h
  | deleteClause table clause =>
    exact change_session (Session.deleteClause_isWhole table (some clause)) fun n db' h => change_delete hname h
  | delete table filters =>
    refine change_session (Session.delete_isWhole table filters) fun n db' h => ?_
    change db.delete table filters = _ at h
    rw [delete_steps] at h
    obtain ⟨clause, _, h⟩ := bind_eq_ok.mp h
    cases clause with
    | none =>
      cases h
      exact .nothing
    | some clause => exact change_delete hname h
  | deleteAll table =>
    exact change_session (Session.deleteAll_isWhole table) fun n db' h => change_delete hname h
  | scanClause _ _ | scan _ _ | tableColumns _ | schema? _ | schemaOf _ => exact hread trivial

/-! ## What is read of a table -/

theorem tableColumns_congr (h : db'.find? name = db.find? name) : db'.tableColumns name = db.tableColumns name := by
  rw [tableColumns, tableColumns, Database.columns, Database.columns, h]

theorem runSelect_congr {columns : List String} (clause : Option Clause) (hname : Sql.isPlain name = true)
    (hcolumns : columns.all Sql.isPlain = true) (hne : columns ≠ []) (h : db'.find? name = db.find? name) :
    db'.runSelect columns name clause = db.runSelect columns name clause := by
  rw [runSelect, runSelect, Statement.read_select clause hname hcolumns hne]
  cases (Statement.select columns name clause).checkClause with
  | error f => rw [error_bind, error_bind, error_bind]
  | ok _ =>
    rw [ok_bind, pure_eq_ok, ok_bind, ok_bind]
    dsimp only
    rw [Database.table, Database.table, h]

theorem tableColumns_plain (hdb : db.HasPlainColumns) (hc : isCatalogue name = false) :
    ((db.tableColumns name).map Column.name).all Sql.isPlain = true := by
  rw [List.all_eq_true]
  intro column hcolumn
  rw [tableColumns, Database.columns, List.map_map] at hcolumn
  cases hf : db.find? name with
  | none =>
    rw [hf] at hcolumn
    cases hcolumn
  | some t =>
    rw [hf] at hcolumn
    obtain ⟨c, hmem, rfl⟩ := List.mem_map.mp hcolumn
    exact hdb t (mem_of_find? hf hc).1 c hmem

theorem schemaOf_congr (h : db'.find? name = db.find? name) : db'.schemaOf name = db.schemaOf name := by
  rw [schemaOf_steps, schemaOf_steps]
  unfold Database.schema?
  rw [tableColumns_congr h]

theorem schemaOf_ok {s : Schema} (h : db.schemaOf name = .ok s) :
    s.columns = db.tableColumns name ∧ s.columns ≠ [] := by
  rw [schemaOf_steps] at h
  unfold Database.schema? at h
  cases hcolumns : db.tableColumns name with
  | nil =>
    rw [hcolumns] at h
    cases h
  | cons c cs =>
    rw [hcolumns] at h
    cases h
    exact ⟨rfl, List.cons_ne_nil c cs⟩

/-- A scan reads the table of its name and nothing else. -/
theorem scanClause_congr (hdb : db.HasPlainColumns) (hname : Sql.isPlain name = true) (hc : isCatalogue name = false)
    (h : db'.find? name = db.find? name) (clause : Option Clause) :
    db'.scanClause name clause = db.scanClause name clause := by
  rw [scanClause_steps, scanClause_steps, schemaOf_congr h]
  cases hschema : db.schemaOf name with
  | error e => rw [error_bind, error_bind]
  | ok s =>
    obtain ⟨hcolumns, hne⟩ := schemaOf_ok hschema
    have hplain : (s.columns.map Column.name).all Sql.isPlain = true := hcolumns ▸ tableColumns_plain hdb hc
    have hnames : s.columns.map Column.name ≠ [] := fun hnil => hne (List.map_eq_nil_iff.mp hnil)
    rw [ok_bind, ok_bind]
    dsimp only
    rw [runSelect_congr clause hname hplain hnames h]

/-! ## Runs -/

theorem plain_perform (hdb : db.HasPlainColumns) (hop : op.IsPlain) : (db.perform op).2.HasPlainColumns :=
  (change_perform hop).plain hdb

theorem plain_run {ops : List Operation} (hdb : db.HasPlainColumns) (hops : ∀ op ∈ ops, op.IsPlain) :
    (db.run ops).HasPlainColumns := by
  induction ops generalizing db with
  | nil => exact hdb
  | cons op ops ih =>
    exact ih (plain_perform hdb (hops op List.mem_cons_self)) fun op' hop' => hops op' (List.mem_cons_of_mem op hop')

theorem Reached.plain (h : db.Reached) : db.HasPlainColumns := by
  obtain ⟨start, ops, hstart, hops, rfl⟩ := h
  exact plain_run hstart hops

/-- After any run of plain operations, the next one leaves the columns and the rows of every table of another name as
they are, in whatever way the rows are asked for. It changes nothing at all if it fails, nor if it only reads, and
making sure of a table that is there succeeds and changes nothing, whatever schema is asked for. -/
theorem perform_frame (hdb : db.Reached) (hop : op.IsPlain) :
    (∀ name, Sql.isPlain name = true → Sql.isReservedTable name = false → Text.sameFolded name op.table = false →
      (db.perform op).2.tableColumns name = db.tableColumns name ∧
      (∀ filters, (db.perform op).2.scan name filters = db.scan name filters) ∧
      ∀ clause, (db.perform op).2.scanClause name clause = db.scanClause name clause) ∧
    (∀ e, (db.perform op).1 = .error e → (db.perform op).2 = db) ∧
    (op.IsReading → (db.perform op).2 = db) ∧
    ∀ schema, op = .ensure schema → schema.check = .ok () → (db.find? schema.name).isSome = true →
      db.perform op = (.ok .done, db) := by
  refine ⟨?_, fun e => perform_error, perform_reading, ?_⟩
  · intro name hname hown hne
    have hc := isCatalogue_of_not_reserved hown
    have hchange : Change db op.table (db.perform op).2 := change_perform hop
    have hfind := hchange.find? hne hc
    have hscan := scanClause_congr hdb.plain hname hc hfind
    refine ⟨tableColumns_congr hfind, fun filters => ?_, hscan⟩
    rw [scan_steps, scan_steps]
    cases compileFilters filters with
    | error e => rw [error_bind, error_bind]
    | ok clause =>
      rw [ok_bind, ok_bind]
      exact hscan clause
  · rintro schema rfl hcheck hexists
    obtain ⟨hname, hown, hcolumns⟩ := hop
    rw [perform, Operation.session, Session.map_on, ensure_on, ensure_exists hname hcolumns hown hcheck hexists]
    rfl

/-- Two tables are made, a row goes into one of them, and the name of the other is asked for in capitals with other
columns. -/
theorem perform_frame_notes :
    let db := Database.empty.run [.ensure ⟨"plots", [⟨"area", .float⟩]⟩, .ensure ⟨"notes", [⟨"body", .string⟩]⟩,
      .insertRow "notes" [("body", .text "dry")]]
    db.perform (.ensure ⟨"PLOTS", [⟨"body", .string⟩]⟩) = (.ok .done, db) ∧
    (db.perform (.deleteAll "PLOTS")).2.scan "Notes" [] = db.scan "Notes" [] ∧
    (db.perform (.insertRow "plots" [("body", .null)])).2 = db := by
  have hreached : Reached (Database.empty.run [.ensure ⟨"plots", [⟨"area", .float⟩]⟩,
      .ensure ⟨"notes", [⟨"body", .string⟩]⟩, .insertRow "notes" [("body", .text "dry")]]) := by
    refine ⟨.empty, _, fun t ht => absurd ht List.not_mem_nil, ?_, rfl⟩
    simp only [List.forall_mem_cons]
    exact ⟨⟨by decide, by decide, by decide⟩, ⟨by decide, by decide, by decide⟩, ⟨by decide, by decide, by decide⟩,
      fun op hop => absurd hop List.not_mem_nil⟩
  obtain ⟨_, _, _, hensure⟩ := @perform_frame _ (.ensure ⟨"PLOTS", [⟨"body", .string⟩]⟩) hreached
    ⟨by decide, by decide, by decide⟩
  obtain ⟨hother, _⟩ := @perform_frame _ (.deleteAll "PLOTS") hreached ⟨by decide, by decide, by decide⟩
  obtain ⟨_, hfailed, _⟩ := @perform_frame _ (.insertRow "plots" [("body", .null)]) hreached
    ⟨by decide, by decide, by decide⟩
  refine ⟨hensure _ rfl rfl (by decide +kernel), ?_, hfailed _ rfl⟩
  exact (hother "Notes" (by decide) (by decide) (by decide)).2.1 []

end Database

end Herbarium
