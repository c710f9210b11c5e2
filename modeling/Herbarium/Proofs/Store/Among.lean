import Mathlib.Data.List.Basic
import Herbarium.Proofs.Store.Selection

/-!
Specimens among other tables.

The database of a store may have other tables beside that of the specimens, and it may be one that cannot be changed.
`Carries s records` ties such a store to the specimens in it. It reads as the store that has their table only
(`select_eq`). An operation on it either succeeds and counts exactly the specimens by which their list grows or shrinks,
or fails before it changes anything (`Carries.insert`, `Carries.delete`, `Carries.deleteAll`). Of an insertion, which is
a statement for each specimen, this is so because specimens of finite lengths are all taken by a database that can be
changed (`Carries.insertAll`), and by any other not even the first (`Carries.insertAll_readOnly`).
-/

namespace Herbarium.Store

open Outcome

variable {s s' : Store} {rows : List StoredRow} {records rs : List Specimen} {count n : Nat}

/-- The specimens of a store, oldest first, whatever other tables it has. -/
structure Carries (s : Store) (records : List Specimen) : Prop where
  table : ∃ rows, s.database.HasSpecimens rows ∧ (ofRows rows).Holds records

theorem carries_of_empty (h : s.database.HasSpecimens []) : s.Carries [] := ⟨[], h, holds_empty⟩

/-! ## The rows of a store that holds specimens -/

theorem ofRows_injective {rows' : List StoredRow} (h : ofRows rows = ofRows rows') : rows = rows' := by
  have hrows : (ofRows rows).rows = (ofRows rows').rows := by rw [h]
  rw [rows_ofRows, rows_ofRows] at hrows
  exact List.reverse_injective hrows

theorem Holds.falling (h : (ofRows rows).Holds records) : Table.Falling rows := by
  obtain ⟨rows', heq, hfalling, _⟩ := h.rows
  exact ofRows_injective heq ▸ hfalling

theorem Holds.length_rows (h : (ofRows rows).Holds records) : rows.length = records.length := by
  rw [← h.map_specimen, rows_ofRows, List.length_map, List.length_reverse]

/-! ## Reading -/

/-- Other tables play no part in what a selection shows. -/
theorem select_eq (h : s.database.HasSpecimens rows) (filters : List Filter) :
    s.select filters = (ofRows rows).select filters := by
  have hscan : ∀ clause, s.database.scanClause Specimen.tableName clause =
      (ofRows rows).database.scanClause Specimen.tableName clause := by
    intro clause
    rw [h.scanClause, scanClause_ofRows]
  simp only [select_steps, Database.scan_steps, hscan]

theorem Carries.select (h : s.Carries records) : s.select [] = .ok records := by
  obtain ⟨rows, hrows, hholds⟩ := h.table
  rw [select_eq hrows, hholds.select]

theorem Carries.summary (h : s.Carries records) : s.summary = .ok (Summary.ofRecords records) := by
  rw [summary_steps, h.select, ok_bind, pure_eq_ok]

/-! ## Inserting -/

theorem Carries.insertOne (h : s.Carries records) (hw : s.database.writable = true) {r : Specimen} (hr : r.IsFinite) :
    ∃ s', s.insertOne r = .ok (1, s') ∧ s'.Carries (records ++ [r.stored]) ∧ s'.database.writable = true := by
  obtain ⟨rows, hrows, hholds⟩ := h.table
  -- the store with this table only gets the same row
  obtain ⟨s₁, hs₁, h₁⟩ := hholds.insertOne hr
  rw [insertOne_steps, insertRow_ofRows hr hholds.falling] at hs₁
  cases hs₁
  refine ⟨_, ?_, ⟨_, hrows.replace _, h₁⟩, hw⟩
  rw [insertOne_steps, hrows.insertRow hw hr hholds.falling, map_ok]
  rfl

theorem Carries.insertOne_readOnly (h : s.Carries records) (hw : s.database.writable = false) (r : Specimen) :
    ∃ e, (Session.insertOne r).on s.database = (.error e, s.database) := by
  obtain ⟨rows, hrows, -⟩ := h.table
  have hon := (Session.insertOne_isWhole r).on_eq s.database
  cases heffect : (Session.insertOne r).effect s.database with
  | error e => exact ⟨e, by rw [hon, heffect, Database.settled]⟩
  | ok p =>
    rw [hrows.writable_of_insertRow heffect] at hw
    cases hw

/-- A database that can be changed takes all specimens of finite lengths. -/
theorem Carries.insertAll (h : s.Carries records) (hw : s.database.writable = true) (count : Nat)
    (hrs : ∀ r ∈ rs, r.IsFinite) :
    ∃ s', s.insertAll count rs = .ok (count + rs.length, s') ∧ s'.Carries (records ++ rs.map Specimen.stored) := by
  induction rs generalizing s records count with
  | nil => exact ⟨s, insertAll_nil s count, by simpa using h⟩
  | cons r rs ih =>
    obtain ⟨s₁, hone, h₁, hw₁⟩ := h.insertOne hw (hrs r List.mem_cons_self)
    obtain ⟨s', hall, h'⟩ := ih h₁ hw₁ (count + 1) fun x hx => hrs x (List.mem_cons_of_mem r hx)
    refine ⟨s', ?_, by simpa using h'⟩
    rw [insertAll_cons, hone, ok_bind]
    dsimp only
    rw [hall, List.length_cons, Nat.add_assoc, Nat.add_comm 1]

/-- A database that cannot be changed refuses the first specimen, so none of them is inserted. -/
theorem Carries.insertAll_readOnly (h : s.Carries records) (hw : s.database.writable = false) (count : Nat)
    (hne : rs ≠ []) : ∃ e, (Session.insertAll count rs).on s.database = (.error e, s.database) := by
  cases rs with
  | nil => exact absurd rfl hne
  | cons r rs =>
    obtain ⟨e, he⟩ := h.insertOne_readOnly hw r
    exact ⟨e, Database.Session.on_bind_error he⟩

theorem Carries.insertAll_cases (h : s.Carries records) (hrs : ∀ r ∈ rs, r.IsFinite) :
    (∃ s', s.insertAll 0 rs = .ok (rs.length, s') ∧ s'.Carries (records ++ rs.map Specimen.stored)) ∨
      ∃ e, (Session.insertAll 0 rs).on s.database = (.error e, s.database) := by
  cases hw : s.database.writable with
  | true => exact Or.inl (by simpa using h.insertAll hw 0 hrs)
  | false =>
    by_cases hnil : rs = []
    · subst hnil
      exact Or.inl ⟨s, insertAll_nil s 0, by simpa using h⟩
    · exact Or.inr (h.insertAll_readOnly hw 0 hnil)

/-- An insertion adds as many specimens as it counts, or fails and adds none. -/
theorem Carries.insert (h : s.Carries records) (hrs : ∀ r ∈ rs, r.IsFinite) (unique : Bool) :
    (∃ (added : List Specimen) (s' : Store), s.insert rs unique = .ok (added.length, s') ∧
        s'.Carries (records ++ added.map Specimen.stored)) ∨
      ∃ e, (Session.insert rs unique).on s.database = (.error e, s.database) := by
  cases unique with
  | false =>
    rcases h.insertAll_cases hrs with ⟨s', hall, h'⟩ | herror
    · exact Or.inl ⟨rs, s', hall, h'⟩
    · exact Or.inr herror
  | true =>
    have hfresh : ∀ r ∈ fresh records rs, r.IsFinite := fun r hr =>
      hrs r (List.mem_filter.mp (List.mem_eraseDups.mp hr)).1
    -- what is stored already is read first, which changes nothing
    have hselect : (Session.select []).on s.database = (.ok records, s.database) := by
      rw [(Session.select_reads []).on_eq, ← Store.select, h.select]
    have hinsert : (Session.insert rs true).on s.database =
        (Session.insertAll 0 (fresh records rs)).on s.database := by
      rw [← unseen_eq]
      exact Database.Session.on_bind_ok (f := fun seen => Session.insertAll 0 (unseen seen rs)) hselect
    rcases h.insertAll_cases hfresh with ⟨s', hall, h'⟩ | herror
    · exact Or.inl ⟨fresh records rs, s', effect_eq_ok.mpr (hinsert.trans (effect_eq_ok.mp hall)), h'⟩
    · exact Or.inr (hinsert ▸ herror)

/-! ## Deleting -/

/-- A deletion that succeeds takes out as many specimens as it counts. -/
theorem Carries.deleteClause (h : s.Carries records) {clause : Option Clause} {db : Database}
    (hok : s.database.deleteClause Specimen.tableName clause = .ok (n, db)) :
    ∃ kept : List Specimen, kept.length + n = records.length ∧ Carries { database := db } kept := by
  obtain ⟨rows, hrows, hholds⟩ := h.table
  rw [hrows.deleteClause (hrows.writable_of_deleteClause hok), mapError_eq_ok] at hok
  obtain ⟨_, _, hok⟩ := bind_eq_ok.mp hok
  obtain ⟨conditions, _, hok⟩ := bind_eq_ok.mp hok
  cases hok
  obtain ⟨kept, hkept, hrows'⟩ := hholds.erase (allHold conditions)
  rw [erase_ofRows] at hkept
  refine ⟨kept, ?_, _, hrows.erase _, hkept⟩
  rw [← hkept.length_rows, ← hholds.length_rows, Nat.add_comm]
  exact (List.length_eq_length_filter_add (allHold conditions)).symm

theorem Carries.delete_ok (h : s.Carries records) {filters : List Filter} (hok : s.delete filters = .ok (n, s')) :
    ∃ kept : List Specimen, kept.length + n = records.length ∧ s'.Carries kept := by
  rw [delete_steps] at hok
  obtain ⟨⟨m, db⟩, hdb, hs'⟩ := map_eq_ok hok
  cases hs'
  rw [Database.delete_steps] at hdb
  obtain ⟨compiled, _, hdb⟩ := bind_eq_ok.mp hdb
  cases compiled with
  | none =>
    cases hdb
    exact ⟨records, rfl, h⟩
  | some clause => exact h.deleteClause hdb

theorem Carries.deleteAll_ok (h : s.Carries records) (hok : s.deleteAll = .ok (n, s')) :
    ∃ kept : List Specimen, kept.length + n = records.length ∧ s'.Carries kept := by
  rw [deleteAll_steps] at hok
  obtain ⟨⟨m, db⟩, hdb, hs'⟩ := map_eq_ok hok
  cases hs'
  exact h.deleteClause hdb

/-- A statement that only deletes is whole, so it counts what it takes out or fails and takes out nothing. -/
theorem Carries.deleted {session : Database.Session Nat} (hwhole : session.IsWhole)
    (hok : ∀ {n s'}, s.effect session = .ok (n, s') →
      ∃ kept : List Specimen, kept.length + n = records.length ∧ s'.Carries kept) :
    (∃ (n : Nat) (s' : Store) (kept : List Specimen), s.effect session = .ok (n, s') ∧
        kept.length + n = records.length ∧ s'.Carries kept) ∨
      ∃ e, session.on s.database = (.error e, s.database) := by
  cases heffect : s.effect session with
  | ok p =>
    obtain ⟨kept, hlength, hkept⟩ := hok heffect
    exact Or.inl ⟨p.1, p.2, kept, rfl, hlength, hkept⟩
  | error e =>
    have hanswer := effect_eq_error.mp heffect
    exact Or.inr ⟨e, Prod.ext hanswer (hwhole s.database e hanswer)⟩

theorem Carries.delete (h : s.Carries records) (filters : List Filter) :
    (∃ (n : Nat) (s' : Store) (kept : List Specimen), s.delete filters = .ok (n, s') ∧
        kept.length + n = records.length ∧ s'.Carries kept) ∨
      ∃ e, (Session.delete filters).on s.database = (.error e, s.database) :=
  Carries.deleted (Session.delete_isWhole filters) h.delete_ok

theorem Carries.deleteAll (h : s.Carries records) :
    (∃ (n : Nat) (s' : Store) (kept : List Specimen), s.deleteAll = .ok (n, s') ∧
        kept.length + n = records.length ∧ s'.Carries kept) ∨
      ∃ e, Session.deleteAll.on s.database = (.error e, s.database) :=
  Carries.deleted Session.deleteAll_isWhole h.deleteAll_ok

end Herbarium.Store
