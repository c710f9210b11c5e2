import Herbarium.Database.Operations
import Herbarium.Proofs.Database.Statements

/-!
What sessions come to.

A session goes on after its first step on the database that this step left, and stops at a step that fails
(`on_bind_ok`, `on_bind_error`). So its effect is made up of the effects of its steps (`effect_bind`), and its answer of
their answers as long as they only read (`Reads.answer_bind`); the equations named `_steps` say so for each operation.

What a failed session has done stays done. A session `IsWhole` if there is nothing of that kind: where it fails, the
database is as it was. A statement is whole, and so is a session of which only the last step may change anything
(`Reads.whole_bind`). Every operation on a table is one of these.
-/

namespace Herbarium.Database

open Outcome

/-- How a session ends that has this effect and does nothing when it fails. -/
def settled {α : Type} (db : Database) : Except Error (α × Database) → Except Error α × Database
  | .ok (a, db') => (.ok a, db')
  | .error e => (.error e, db)

namespace Session

variable {α β : Type} {db db' : Database} {a : α} {e : Error} {s : Session α} {f : α → Session β}

/-- A session that changes nothing. -/
def Reads (s : Session α) : Prop := ∀ db, (s.on db).2 = db

/-- A session that changes nothing where it fails. -/
def IsWhole (s : Session α) : Prop := ∀ db e, s.answer db = .error e → (s.on db).2 = db

/-! ## Steps -/

theorem on_ofExcept (x : Except Error α) : (MonadExcept.ofExcept x : Session α).on db = (x, db) := by
  cases x with
  | ok a => rfl
  | error e => rfl

theorem on_bind_ok (h : s.on db = (.ok a, db')) : (s >>= f).on db = (f a).on db' := by
  show Id.run ((ExceptT.bindCont f (s.on db).1).run (s.on db).2) = _
  rw [h]
  rfl

theorem on_bind_error (h : s.on db = (.error e, db')) : (s >>= f).on db = (.error e, db') := by
  show Id.run ((ExceptT.bindCont f (s.on db).1).run (s.on db).2) = _
  rw [h]
  rfl

theorem map_on (g : α → β) (s : Session α) (db : Database) : (g <$> s).on db = ((s.on db).1.map g, (s.on db).2) := by
  cases h : s.on db with
  | mk outcome after =>
    cases outcome with
    | ok a => exact on_bind_ok (f := fun a => pure (g a)) h
    | error e => exact on_bind_error (f := fun a => pure (g a)) h

theorem execute_on (statement : Database → Except Error (α × Database)) :
    (execute statement).on db = settled db (statement db) := by
  unfold execute
  rw [on_bind_ok (show (get : Session Database).on db = (.ok db, db) from rfl)]
  cases hstatement : statement db with
  | error e => rw [on_bind_error (on_ofExcept (.error e)), settled]
  | ok p =>
    rw [on_bind_ok (on_ofExcept (.ok p))]
    rfl

theorem query_on (statement : Database → Except Error α) : (query statement).on db = (statement db, db) := by
  unfold query
  rw [on_bind_ok (show (get : Session Database).on db = (.ok db, db) from rfl)]
  exact on_ofExcept (statement db)

/-! ## Effects -/

theorem effect_eq_ok : s.effect db = .ok (a, db') ↔ s.on db = (.ok a, db') := by
  rw [effect, answer]
  cases s.on db with
  | mk outcome after => cases outcome <;> simp [Except.map]

theorem effect_eq_error : s.effect db = .error e ↔ s.answer db = .error e := by
  rw [effect]
  cases s.answer db <;> simp [Except.map]

theorem effect_map_fst (s : Session α) (db : Database) : (s.effect db).map Prod.fst = s.answer db := by
  rw [effect]
  cases s.answer db <;> rfl

theorem effect_bind (s : Session α) (f : α → Session β) (db : Database) :
    (s >>= f).effect db = (do
      let (a, db') ← s.effect db
      (f a).effect db') := by
  cases h : s.on db with
  | mk outcome after =>
    cases outcome with
    | ok a =>
      rw [effect_eq_ok.mpr h, ok_bind]
      simp only [effect, answer, on_bind_ok h]
    | error e =>
      have hs : s.answer db = .error e := congrArg Prod.fst h
      rw [effect_eq_error.mpr hs, error_bind, effect_eq_error, answer, on_bind_error h]

theorem effect_execute (statement : Database → Except Error (α × Database)) :
    (execute statement).effect db = statement db := by
  rw [effect, answer, execute_on]
  cases statement db with
  | ok p => rfl
  | error e => rfl

/-! ## Sessions that read -/

namespace Reads

theorem ofExcept (x : Except Error α) : (MonadExcept.ofExcept x : Session α).Reads :=
  fun _ => congrArg Prod.snd (on_ofExcept x)

theorem pure (a : α) : (Pure.pure a : Session α).Reads := fun _ => rfl

theorem query (statement : Database → Except Error α) : (Session.query statement).Reads :=
  fun _ => congrArg Prod.snd (query_on statement)

theorem on_eq (h : s.Reads) (db : Database) : s.on db = (s.answer db, db) := Prod.ext rfl (h db)

theorem bind (h : s.Reads) (hf : ∀ a, (f a).Reads) : (s >>= f).Reads := by
  intro db
  have hon := h.on_eq db
  cases hs : s.answer db with
  | ok a => rw [on_bind_ok (hs ▸ hon), hf a db]
  | error e => rw [on_bind_error (hs ▸ hon)]

theorem map (h : s.Reads) (g : α → β) : (g <$> s).Reads := fun db => by rw [map_on, h db]

theorem answer_bind (h : s.Reads) (f : α → Session β) (db : Database) :
    (s >>= f).answer db = (do (f (← s.answer db)).answer db) := by
  have hon := h.on_eq db
  cases hs : s.answer db with
  | ok a => rw [ok_bind, answer, on_bind_ok (hs ▸ hon), answer]
  | error e => rw [error_bind, answer, on_bind_error (hs ▸ hon)]

theorem effect_bind (h : s.Reads) (f : α → Session β) (db : Database) :
    (s >>= f).effect db = (do (f (← s.answer db)).effect db) := by
  rw [Session.effect_bind, effect, h db]
  cases s.answer db with
  | ok a => rfl
  | error e => rfl

/-- Nothing is changed where nothing but the last step changes anything. -/
theorem whole_bind (h : s.Reads) (hf : ∀ a, (f a).IsWhole) : (s >>= f).IsWhole := by
  intro db e herror
  have hon := h.on_eq db
  cases hs : s.answer db with
  | ok a =>
    rw [answer, on_bind_ok (hs ▸ hon)] at herror
    rw [on_bind_ok (hs ▸ hon), hf a db e herror]
  | error e => rw [on_bind_error (hs ▸ hon)]

theorem isWhole (h : s.Reads) : s.IsWhole := fun db _ _ => h db

end Reads

theorem answer_ofExcept (x : Except Error α) : (MonadExcept.ofExcept x : Session α).answer db = x :=
  congrArg Prod.fst (on_ofExcept x)

theorem answer_query (statement : Database → Except Error α) : (query statement).answer db = statement db :=
  congrArg Prod.fst (query_on statement)

/-! ## Whole sessions -/

theorem execute_isWhole (statement : Database → Except Error (α × Database)) : (execute statement).IsWhole := by
  intro db e herror
  rw [answer, execute_on] at herror
  rw [execute_on]
  cases hstatement : statement db with
  | ok p =>
    rw [hstatement] at herror
    cases herror
  | error _ => rfl

theorem IsWhole.map (h : s.IsWhole) (g : α → β) : (g <$> s).IsWhole := by
  intro db e herror
  rw [answer, map_on] at herror
  rw [map_on]
  cases hs : s.answer db with
  | ok a =>
    rw [answer] at hs
    rw [hs] at herror
    cases herror
  | error e => exact h db e hs

theorem IsWhole.on_eq (h : s.IsWhole) (db : Database) : s.on db = settled db (s.effect db) := by
  cases hs : s.answer db with
  | ok a =>
    have hon : s.on db = (.ok a, (s.on db).2) := Prod.ext hs rfl
    rw [effect_eq_ok.mpr hon, settled]
    exact hon
  | error e =>
    rw [effect_eq_error.mpr hs, settled]
    exact Prod.ext hs (h db e hs)

theorem ensure_isWhole (schema : Schema) : (ensure schema).IsWhole :=
  (Reads.ofExcept _).whole_bind fun _ => execute_isWhole _

theorem insertRow_isWhole (table : String) (row : Row) : (insertRow table row).IsWhole := execute_isWhole _

theorem deleteClause_isWhole (table : String) (clause : Option Clause) : (deleteClause table clause).IsWhole :=
  execute_isWhole _

theorem delete_isWhole (table : String) (filters : List Filter) : (delete table filters).IsWhole := by
  refine (Reads.ofExcept _).whole_bind fun clause => ?_
  cases clause with
  | none => exact (Reads.pure 0).isWhole
  | some clause => exact deleteClause_isWhole table (some clause)

theorem deleteAll_isWhole (table : String) : (deleteAll table).IsWhole := deleteClause_isWhole table none

theorem tableColumns_reads (table : String) : (tableColumns table).Reads := .query _

theorem schema?_reads (table : String) : (schema? table).Reads := .query _

theorem schemaOf_reads (table : String) : (schemaOf table).Reads := by
  refine (schema?_reads table).bind fun s => ?_
  cases s with
  | none => exact .ofExcept (.error _)
  | some s => exact .pure s

theorem scanClause_reads (table : String) (clause : Option Clause) : (scanClause table clause).Reads :=
  (schemaOf_reads table).bind fun _ => (Reads.query _).bind fun _ => .pure _

theorem scan_reads (table : String) (filters : List Filter) : (scan table filters).Reads :=
  (Reads.ofExcept _).bind fun clause => scanClause_reads table clause

end Session

/-! ## Operations by their steps -/

variable (db : Database) (table : String)

theorem ensure_steps (schema : Schema) :
    db.ensure schema = (do
      schema.check.mapError fun f => Error.internal f.message
      (db.runCreate schema).mapError fun f => operationError f schema.createSql) := by
  rw [ensure, Session.ensure, (Session.Reads.ofExcept _).effect_bind, Session.answer_ofExcept]
  cases schema.check.mapError fun f => Error.internal f.message with
  | error e => rfl
  | ok _ =>
    rw [ok_bind, ok_bind, Session.effect_execute]
    cases (db.runCreate schema).mapError fun f => operationError f schema.createSql with
    | error e => rfl
    | ok db' => rfl

theorem ensure_on (schema : Schema) :
    (Session.ensure schema).on db = settled db ((db.ensure schema).map fun db' => ((), db')) := by
  rw [(Session.ensure_isWhole schema).on_eq, ensure]
  cases (Session.ensure schema).effect db with
  | ok p => rfl
  | error e => rfl

theorem insertRow_steps (row : Row) :
    db.insertRow table row = (do
      let db ← (db.runInsert table row).mapError fun f =>
        operationError f (Sql.Statement.insert table (row.map Prod.fst)).text
      return (1, db)) := by
  rw [insertRow, Session.insertRow, Session.effect_execute]

theorem schemaOf_steps :
    db.schemaOf table =
      match db.schema? table with
      | some s => .ok s
      | none => .error (operationError (.missingTable table) "") := by
  rw [schemaOf, Session.schemaOf, (Session.schema?_reads table).answer_bind, Session.schema?, Session.answer_query,
    pure_eq_ok, ok_bind]
  cases db.schema? table with
  | none => rfl
  | some s => rfl

theorem scanClause_steps (clause : Option Clause) :
    db.scanClause table clause = (do
      let s ← db.schemaOf table
      let names := s.columns.map Column.name
      let rows ← (db.runSelect names table clause).mapError fun f =>
        operationError f (Sql.Statement.select names table clause).text
      return rows.map (readRow s.columns)) := by
  rw [scanClause, Session.scanClause, (Session.schemaOf_reads table).answer_bind, ← schemaOf]
  cases db.schemaOf table with
  | error e => rfl
  | ok s =>
    rw [ok_bind, ok_bind]
    dsimp only
    rw [(Session.Reads.query _).answer_bind, Session.answer_query]
    rfl

theorem scan_steps (filters : List Filter) :
    db.scan table filters = (do db.scanClause table (← compileFilters filters)) := by
  rw [scan, Session.scan, (Session.Reads.ofExcept _).answer_bind, Session.answer_ofExcept]
  rfl

theorem deleteClause_steps (clause : Option Clause) :
    db.deleteClause table clause =
      (db.runDelete table clause).mapError fun f => operationError f (Sql.Statement.delete table clause).text := by
  rw [deleteClause, Session.deleteClause, Session.effect_execute]

theorem delete_steps (filters : List Filter) :
    db.delete table filters = (do
      match ← compileFilters filters with
      | some clause => db.deleteClause table (some clause)
      | none => return (0, db)) := by
  rw [delete, Session.delete, (Session.Reads.ofExcept _).effect_bind, Session.answer_ofExcept]
  cases compileFilters filters with
  | error e => rfl
  | ok clause =>
    rw [ok_bind, ok_bind]
    cases clause with
    | none => rfl
    | some clause => rfl

end Herbarium.Database
