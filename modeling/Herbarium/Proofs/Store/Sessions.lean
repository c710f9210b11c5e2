import Herbarium.Store
import Herbarium.Proofs.Database.Sessions

/-!
The store by its sessions.

What an operation of the store comes to follows from the steps of its session: the equations named `_steps` reduce it to
operations on the table of specimens, and insertions to those of single specimens (`insertAll_cons`).
-/

namespace Herbarium.Store

open Outcome

namespace Session

open Database.Session (Reads IsWhole)

theorem select_reads (filters : List Filter) : (select filters).Reads :=
  (Database.Session.scan_reads Specimen.tableName filters).bind fun _ => .ofExcept _

theorem summary_reads : summary.Reads := (select_reads []).bind fun _ => .pure _

theorem ensure_isWhole : ensure.IsWhole := Database.Session.ensure_isWhole Specimen.schema

theorem insertOne_isWhole (r : Specimen) : (insertOne r).IsWhole :=
  Database.Session.insertRow_isWhole Specimen.tableName r.entries

theorem delete_isWhole (filters : List Filter) : (delete filters).IsWhole :=
  Database.Session.delete_isWhole Specimen.tableName filters

theorem deleteAll_isWhole : deleteAll.IsWhole := Database.Session.deleteAll_isWhole Specimen.tableName

end Session

variable {n : Nat} {e : Error} {session : Database.Session Nat}

theorem effect_eq_ok {s s' : Store} :
    s.effect session = .ok (n, s') ↔ session.on s.database = (.ok n, s'.database) := by
  obtain ⟨db⟩ := s'
  rw [← Database.Session.effect_eq_ok, effect]
  cases session.effect s.database <;> simp [Except.map, Prod.ext_iff]

theorem effect_eq_error {s : Store} : s.effect session = .error e ↔ session.answer s.database = .error e := by
  rw [← Database.Session.effect_eq_error, effect]
  cases session.effect s.database <;> simp [Except.map]

theorem effect_map_fst (session : Database.Session Nat) (s : Store) :
    (s.effect session).map Prod.fst = session.answer s.database := by
  rw [← Database.Session.effect_map_fst, effect]
  cases session.effect s.database <;> rfl

theorem effect_bind (session : Database.Session Nat) (f : Nat → Database.Session Nat) (s : Store) :
    s.effect (session >>= f) = (do
      let (n, s) ← s.effect session
      s.effect (f n)) := by
  rw [effect, Database.Session.effect_bind, effect]
  cases session.effect s.database with
  | ok p => rfl
  | error e => rfl

/-! ## Opening -/

theorem ofDatabase_eq_ok {db : Database} {s : Store} :
    ofDatabase db = .ok s ↔ Session.ensure.on db = (.ok (), s.database) := by
  obtain ⟨db'⟩ := s
  rw [ofDatabase, Database.ensure, ← Database.Session.effect_eq_ok, Session.ensure]
  cases (Database.Session.ensure Specimen.schema).effect db <;> simp [Except.map, Prod.ext_iff]

theorem opened_on {α : Type} {db : Database} {s : Store} (h : ofDatabase db = .ok s) (run : Database.Session α) :
    (Session.opened run).on db = run.on s.database := Database.Session.on_bind_ok (ofDatabase_eq_ok.mp h)

/-! ## Operations by their steps -/

variable (s : Store)

theorem select_steps (filters : List Filter) :
    s.select filters = (do (← s.database.scan Specimen.tableName filters).mapM readRow) := by
  rw [select, Session.select, (Database.Session.scan_reads _ _).answer_bind, ← Database.scan]
  simp only [Database.Session.answer_ofExcept]

theorem count_steps : s.count = (do return (← s.database.scan Specimen.tableName []).length) := by
  rw [count, Session.count, (Database.Session.scan_reads _ _).answer_bind, ← Database.scan]
  rfl

theorem summary_steps : s.summary = (do return Summary.ofRecords (← s.select [])) := by
  rw [summary, Session.summary, (Session.select_reads []).answer_bind, ← select]
  rfl

theorem insertOne_steps (r : Specimen) :
    s.insertOne r = (s.database.insertRow Specimen.tableName r.entries).map fun (n, db) => (n, { database := db }) := rfl

theorem insertAll_nil (count : Nat) : s.insertAll count [] = .ok (count, s) := rfl

theorem insertAll_cons (count : Nat) (r : Specimen) (rest : List Specimen) :
    s.insertAll count (r :: rest) = (do
      let (n, s) ← s.insertOne r
      s.insertAll (count + n) rest) := effect_bind _ _ s

theorem insert_all_steps (rs : List Specimen) : s.insert rs false = s.insertAll 0 rs := rfl

theorem insert_unique_steps (rs : List Specimen) :
    s.insert rs true = (do s.insertAll 0 (unseen (← s.select []) rs)) := by
  rw [insert, effect, Session.insert, if_pos rfl, (Session.select_reads []).effect_bind, ← select]
  cases s.select [] with
  | ok seen => rfl
  | error e => rfl

theorem delete_steps (filters : List Filter) :
    s.delete filters = (s.database.delete Specimen.tableName filters).map fun (n, db) => (n, { database := db }) := rfl

theorem deleteAll_steps :
    s.deleteAll = (s.database.deleteAll Specimen.tableName).map fun (n, db) => (n, { database := db }) := rfl

end Herbarium.Store
