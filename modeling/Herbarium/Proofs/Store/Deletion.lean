import Herbarium.Proofs.Store.Selection

/-!
A deletion takes out what a selection shows.

For filters of which there is at least one, a selection and a deletion succeed on the same stores, or both fail and the
store stays as it is. Where they succeed, the rows the selection shows are the rows the deletion takes out, and no
others (`Holds.delete_shown`). Without filters the two part: a selection shows all rows, a deletion takes out none.
-/

namespace Herbarium.Store

open Outcome

variable {s : Store} {records : List Specimen} {fs : List Filter}

theorem delete_none (s : Store) : s.delete [] = .ok (0, s) := rfl

/-- A row is one of those that pass exactly when it passes, if it is a row at all. -/
theorem filter_not_mem {rows : List StoredRow} (p : StoredRow → Bool) :
    (rows.filter fun r => r ∉ rows.filter p) = rows.filter fun r => !p r := by
  refine List.filter_congr fun r hr => ?_
  cases hp : p r with
  | true => simp [hr, hp]
  | false => simp [hp]

/-- The rows a selection shows are those a deletion takes out; after that, there are none to show. -/
theorem Holds.delete_shown (h : s.Holds records) (hne : fs ≠ []) (ha : Answerable fs) :
    ∃ (shown : List StoredRow) (s' : Store) (records' : List Specimen), shown.Sublist s.rows ∧
      s.select fs = .ok (shown.map StoredRow.specimen) ∧
      s.delete fs = .ok (shown.length, s') ∧ s'.Holds records' ∧ s'.rows = s.rows.filter (· ∉ shown) ∧
      s'.select fs = .ok [] := by
  obtain ⟨records', h', hrows'⟩ := h.erase (Filter.allPass fs)
  refine ⟨s.rows.filter (Filter.allPass fs), _, records', List.filter_sublist, h.select_answerable hne ha,
    h.delete_answerable hne ha, h', ?_, ?_⟩
  · rw [hrows', filter_not_mem]
  · -- no row that is left passes
    have hnone : (s.rows.filter fun r => !Filter.allPass fs r).filter (Filter.allPass fs) = [] := by
      rw [List.filter_filter]
      exact List.filter_eq_nil_iff.mpr fun r _ => by simp
    rw [h'.select_answerable hne ha, hrows', hnone, List.map_nil]

/-- A deletion removes exactly what a selection shows. With filters, the two fail together, with errors of one kind and
without a change, or the selection shows some rows and the deletion counts and takes out just these, leaving the others
in their order, so that the same selection shows none. Without filters nothing is removed although everything is
shown. Rows stand for places in the table: none occurs twice. -/
theorem delete_removes_selected (hs : s.Reachable) :
    s.rows.Nodup ∧ s.select [] = .ok (s.rows.map StoredRow.specimen) ∧ s.delete [] = .ok (0, s) ∧
    ∀ fs, fs ≠ [] →
      (∃ (shown : List StoredRow) (s' : Store), shown.Sublist s.rows ∧
        s.select fs = .ok (shown.map StoredRow.specimen) ∧ s.delete fs = .ok (shown.length, s') ∧ s.after (.delete fs) = s' ∧
        s'.rows = s.rows.filter (· ∉ shown) ∧ s'.select [] = .ok (s'.rows.map StoredRow.specimen) ∧
        s'.select fs = .ok []) ∨
      (((∃ detail, s.select fs = .error (.parse detail) ∧ s.delete fs = .error (.parse detail)) ∨
        ∃ detail detail', s.select fs = .error (.operation detail) ∧ s.delete fs = .error (.operation detail')) ∧
        s.after (.delete fs) = s) := by
  obtain ⟨records, h⟩ := hs.holds
  refine ⟨h.nodup_rows, h.select_none, delete_none s, fun fs hne => ?_⟩
  by_cases ha : Answerable fs
  · left
    obtain ⟨shown, s', records', hsub, hselect, hdelete, h', hrows', hagain⟩ := h.delete_shown hne ha
    exact ⟨shown, s', hsub, hselect, hdelete, after_ok (c := .delete fs) hdelete, hrows', h'.select_none, hagain⟩
  · right
    have hfail := h.not_answerable hne ha
    refine ⟨hfail, ?_⟩
    rcases hfail with ⟨detail, _, hdelete⟩ | ⟨detail, detail', _, hdelete⟩
    · exact after_delete_error hdelete
    · exact after_delete_error hdelete

set_option maxRecDepth 10000 in
/-- Of two equal specimens, the one whose row a filter names is removed. -/
theorem delete_removes_selected_first :
    (twins {}).Reachable ∧
    ∃ (shown : List StoredRow) (s' : Store), shown.Sublist (twins {}).rows ∧ shown.length = 1 ∧
      (twins {}).select [{ column := "rowid", operator := .equal, value := "1" }] = .ok [{}] ∧
      (twins {}).delete [{ column := "rowid", operator := .equal, value := "1" }] = .ok (1, s') ∧
      s'.rows = (twins {}).rows.filter (· ∉ shown) ∧
      s'.select [{ column := "rowid", operator := .equal, value := "1" }] = .ok [] := by
  have hs : (twins {}).Reachable := twins_reachable Specimen.Built.blank
  have hone : (twins {}).select [{ column := "rowid", operator := .equal, value := "1" }] = .ok [{}] := by rfl
  obtain ⟨_, _, _, hfilters⟩ := delete_removes_selected hs
  rcases hfilters [{ column := "rowid", operator := .equal, value := "1" }] (List.cons_ne_nil _ _) with
    ⟨shown, s', hsub, hselect, hdelete, _, hrows', _, hagain⟩ | ⟨⟨_, hselect, _⟩ | ⟨_, _, hselect, _⟩, _⟩
  · have hlength : shown.length = 1 := by
      have hshown := Except.ok.inj (hone.symm.trans hselect)
      rw [← List.length_map (f := StoredRow.specimen), ← hshown]
      rfl
    exact ⟨hs, shown, s', hsub, hlength, hone, hlength ▸ hdelete, hrows', hagain⟩
  · cases hone.symm.trans hselect
  · cases hone.symm.trans hselect

end Herbarium.Store
