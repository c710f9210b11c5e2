import Herbarium.Proofs.Store.Table

/-!
The specimens a store holds.

`Holds s records` ties a store to a list of specimens: its database has the table of specimens only, the rows fall by
number, and their cells, oldest first, are those of the specimens, all of them finite and no zero of them with a sign.
Reading gives back exactly these specimens; each operation turns the list as it should, and none but a deletion by
filters can fail.
-/

namespace Herbarium.Store

open Outcome

variable {s : Store} {records : List Specimen}

/-- The specimens of a store, oldest first. -/
structure Holds (s : Store) (records : List Specimen) : Prop where
  rows : ∃ rows, s = ofRows rows ∧ Table.Falling rows ∧
    rows.reverse.map StoredRow.cells = records.map Specimen.cells
  finite : ∀ r ∈ records, r.IsFinite
  unsigned : ∀ r ∈ records, ¬ r.HasSignedZero

/-- The new specimens among some, those that are none of the ones already there, each at its first place. -/
def fresh (records rs : List Specimen) : List Specimen := (rs.filter fun r => r ∉ records).eraseDups

theorem holds_empty : (ofRows []).Holds [] where
  rows := ⟨[], rfl, Table.Falling.nil, rfl⟩
  finite := by simp
  unsigned := by simp

/-! ## Reading -/

/-- Rows whose cells are those of specimens read as the specimens' entries. -/
theorem map_readCells {rows : List StoredRow} {records : List Specimen}
    (h : rows.map StoredRow.cells = records.map Specimen.cells) :
    rows.map Specimen.readCells = records.map Specimen.entries := by
  induction rows generalizing records with
  | nil =>
    obtain rfl := List.map_eq_nil_iff.mp h.symm
    rfl
  | cons row rows ih =>
    obtain ⟨r, records', rfl, hr, hrest⟩ := List.map_eq_cons_iff.mp h.symm
    rw [List.map_cons, List.map_cons, Specimen.readCells_eq hr.symm, ih hrest.symm]

theorem Holds.scan (h : s.Holds records) :
    s.database.scan Specimen.tableName [] = .ok (records.map Specimen.entries) := by
  obtain ⟨rows, rfl, _, hcells⟩ := h.rows
  rw [scan_ofRows, map_readCells hcells]

theorem readRow_entries {r : Specimen} (h : r.IsFinite) : readRow r.entries = .ok r := by
  simp [readRow, Specimen.ofFields_entries h]

theorem Holds.select (h : s.Holds records) : s.select [] = .ok records := by
  have hread : records.mapM (fun r => readRow r.entries) = .ok (records.map id) :=
    mapM_eq_ok fun r hr => readRow_entries (h.finite r hr)
  rw [List.map_id] at hread
  rw [select_steps, h.scan, ok_bind, List.mapM_map]
  exact hread

theorem Holds.count (h : s.Holds records) : s.count = .ok records.length := by
  simp [count_steps, h.scan]

theorem Holds.summary (h : s.Holds records) : s.summary = .ok (Summary.ofRecords records) := by
  simp [summary_steps, h.select]

/-! ## Inserting -/

theorem Holds.insertOne (h : s.Holds records) {r : Specimen} (hr : r.IsFinite) :
    ∃ s', s.insertOne r = .ok (1, s') ∧ s'.Holds (records ++ [r.stored]) := by
  obtain ⟨rows, rfl, hfalling, hcells⟩ := h.rows
  refine ⟨_, by rw [insertOne_steps, insertRow_ofRows hr hfalling]; rfl, ⟨_, rfl, ?_, ?_⟩, ?_, ?_⟩
  -- the new row is the newest, so it is read last
  · exact hfalling.cons (Table.lt_nextNumber (t := Specimen.table rows) hfalling)
      (Table.nextNumber_ne_largest (t := Specimen.table rows) hfalling)
  · rw [List.reverse_cons, List.map_append, List.map_append, hcells]
    rfl
  · simpa [or_imp, forall_and] using ⟨h.finite, Specimen.stored_isFinite hr⟩
  · simpa [or_imp, forall_and] using ⟨h.unsigned, Specimen.stored_not_hasSignedZero r⟩

theorem Holds.insertAll (h : s.Holds records) (count : Nat) {rs : List Specimen} (hrs : ∀ r ∈ rs, r.IsFinite) :
    ∃ s', s.insertAll count rs = .ok (count + rs.length, s') ∧ s'.Holds (records ++ rs.map Specimen.stored) := by
  induction rs generalizing s records count with
  | nil => exact ⟨s, rfl, by simpa using h⟩
  | cons r rs ih =>
    obtain ⟨s₁, hone, h₁⟩ := h.insertOne (hrs r List.mem_cons_self)
    obtain ⟨s₂, hall, h₂⟩ := ih h₁ (count + 1) fun x hx => hrs x (List.mem_cons_of_mem r hx)
    refine ⟨s₂, ?_, by simpa using h₂⟩
    have hstep : s.insertAll count (r :: rs) = s₁.insertAll (count + 1) rs := by
      rw [insertAll_cons, hone, ok_bind]
    rw [hstep, hall, List.length_cons, Nat.add_assoc, Nat.add_comm 1]

theorem fresh_cons_of_mem {r : Specimen} {rs : List Specimen} (h : r ∈ records) :
    fresh records (r :: rs) = fresh records rs := by
  simp [fresh, h]

theorem fresh_cons_of_not_mem {r : Specimen} {rs : List Specimen} (h : r ∉ records) :
    fresh records (r :: rs) = r :: fresh (r :: records) rs := by
  -- what is new besides r is what is none of r and the ones there
  have hfilter : (rs.filter fun x => x ∉ records).filter (fun x => !x == r) =
      rs.filter fun x => x ∉ r :: records := by
    rw [List.filter_filter]
    refine List.filter_congr fun x _ => ?_
    simp [Bool.beq_eq_decide_eq]
  rw [fresh, List.filter_cons_of_pos (by simpa using h), List.eraseDups_cons, hfilter, fresh]

/-- What was not seen before are the first occurrences of what is new. -/
theorem unseen_eq (records rs : List Specimen) : unseen records rs = fresh records rs := by
  -- a specimen that is taken joins those already seen
  induction rs generalizing records with
  | nil => rfl
  | cons r rs ih =>
    rw [unseen]
    split
    case isTrue h => rw [ih, fresh_cons_of_mem h]
    case isFalse h => rw [ih, fresh_cons_of_not_mem h]

theorem Holds.insert_all (h : s.Holds records) {rs : List Specimen} (hrs : ∀ r ∈ rs, r.IsFinite) :
    ∃ s', s.insert rs false = .ok (rs.length, s') ∧ s'.Holds (records ++ rs.map Specimen.stored) := by
  simpa [insert_all_steps] using h.insertAll 0 hrs

theorem Holds.insert_unique (h : s.Holds records) {rs : List Specimen} (hrs : ∀ r ∈ rs, r.IsFinite) :
    ∃ s', s.insert rs true = .ok ((fresh records rs).length, s') ∧
      s'.Holds (records ++ (fresh records rs).map Specimen.stored) := by
  have hfresh : ∀ r ∈ fresh records rs, r.IsFinite := fun r hr =>
    hrs r (List.mem_filter.mp (List.mem_eraseDups.mp hr)).1
  simpa [insert_unique_steps, h.select, unseen_eq] using h.insertAll 0 hfresh

/-! ## Deleting -/

/-- A deletion that succeeds leaves some of the specimens, in their order. -/
theorem Holds.delete (h : s.Holds records) {filters : List Filter} {n : Nat} {s' : Store}
    (hdelete : s.delete filters = .ok (n, s')) : ∃ kept, kept.Sublist records ∧ s'.Holds kept := by
  rw [delete_steps] at hdelete
  obtain ⟨⟨m, db⟩, hdb, hs'⟩ := map_eq_ok hdelete
  cases hs'
  rw [Database.delete_steps] at hdb
  obtain ⟨compiled, _, hdb⟩ := bind_eq_ok.mp hdb
  cases compiled with
  | none =>
    cases hdb
    exact ⟨records, List.Sublist.refl records, h⟩
  | some clause =>
    obtain ⟨rows, rfl, hfalling, hcells⟩ := h.rows
    simp only [deleteClause_ofRows, mapError_eq_ok] at hdb
    obtain ⟨_, _, hdb⟩ := bind_eq_ok.mp hdb
    obtain ⟨conditions, _, hdb⟩ := bind_eq_ok.mp hdb
    cases hdb
    -- which rows go is of no concern: the others keep their order and their numbers
    have hsub : ((rows.filter fun r => !allHold conditions r).reverse.map StoredRow.cells).Sublist
        (records.map Specimen.cells) := by
      rw [← hcells]
      exact (List.filter_sublist.reverse).map _
    obtain ⟨kept, hkept, hmap⟩ := List.sublist_map_iff.mp hsub
    exact ⟨kept, hkept, ⟨_, rfl, hfalling.filter _, hmap⟩, fun r hr => h.finite r (hkept.subset hr),
      fun r hr => h.unsigned r (hkept.subset hr)⟩

theorem Holds.deleteAll (h : s.Holds records) :
    ∃ s', s.deleteAll = .ok (records.length, s') ∧ s'.Holds [] := by
  obtain ⟨rows, rfl, _, hcells⟩ := h.rows
  have hlength : rows.length = records.length := by
    simpa using congrArg List.length hcells
  refine ⟨ofRows [], ?_, holds_empty⟩
  rw [deleteAll_steps, deleteAll_ofRows, hlength]
  rfl

end Herbarium.Store
