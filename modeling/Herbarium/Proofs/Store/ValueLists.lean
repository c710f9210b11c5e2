import Herbarium.Proofs.Store.Deletion
import Herbarium.Proofs.Store.Lengths
import Herbarium.Proofs.Store.Species

/-!
Value lists are unions.

A value list and an equality are compiled to different conditions, but both coerce their texts alike and compare under
the affinity of the column. So a row passes a value list exactly if it passes the equality with one of the pieces
(`passes_among`), whatever the pieces are coerced to: a piece that reads as NaN passes no row, and it keeps none from
passing by another piece. An empty piece asks for the empty text (`meets_empty`).
-/

namespace Herbarium

open Outcome

/-- The filter that asks whether a field is among the pieces of a value list. -/
def Field.among (field : Field) (list : String) : Filter := { column := field.name, operator := .isIn, value := list }

namespace Filter

variable {field : Field}

/-- A filter on a field asks its test of the cell of the field. -/
theorem passes_column {f : Filter} (hcolumn : f.column = field.name) (row : StoredRow) :
    f.passes row = (Clause.testOf f).holds field.affinity ((Specimen.operand field).value row) := by
  rw [passes, Table.passes, Clause.column_condition, hcolumn, Specimen.operand?_name]
  rfl

/-- A row passes a value list if it passes the equality with one of the pieces. -/
theorem passes_among (field : Field) (list : String) (row : StoredRow) :
    (field.among list).passes row =
      (Clause.pieces list).any fun piece => (Comparison.equal.filter field piece).passes row := by
  have hpiece : ∀ piece, (Comparison.equal.filter field piece).passes row =
      Comparison.equal.holds field.affinity ((Specimen.operand field).value row) (Value.coerce piece).bind :=
    fun piece => passes_column rfl row
  have htest : Clause.testOf (field.among list) = .among ((Clause.pieces list).map Value.coerce) := rfl
  rw [passes_column rfl row, htest, Test.holds, List.any_map]
  simp only [hpiece]
  rfl

end Filter

/-- The empty text equals itself and no length. -/
theorem Specimen.meets_empty (field : Field) (r : Specimen) :
    r.meets field (.compare .equal (.coerce "")) = decide (r.get field = .text "") := by
  have hcoerce : Value.coerce "" = .text "" := by decide
  rw [hcoerce]
  by_cases hfield : field = .species
  · subst hfield
    have hspecies : r.meets .species (.compare .equal (.text "")) = true ↔ r.species = "" :=
      (Comparison.equal.holds_text_text r.species "").trans ⟨Text.bytes_injective, congrArg Text.bytes⟩
    rw [Bool.eq_iff_iff, hspecies, decide_eq_true_iff]
    simp [get]
  · have htype := type_eq_float hfield
    have hnumber : Value.number? "" = none := by decide
    rw [r.meets_length htype, Comparison.holds_text _ _ hnumber, r.get_length htype]
    simp

namespace Store

variable {s : Store}

/-- A value list selects the rows that the equality with at least one of its pieces selects, in the order of the table
and each of them once. Rows stand for places in the table: none occurs twice. Of the pieces, the empty one selects the
rows whose field is the empty text. -/
theorem select_among (hs : s.Reachable) (field : Field) {list : String}
    (hlimit : (Clause.pieces list).length ≤ Sql.parameterLimit) :
    s.rows.Nodup ∧ s.select [] = .ok (s.rows.map StoredRow.specimen) ∧
    (∀ piece, s.select [Comparison.equal.filter field piece] =
      .ok ((s.rows.filter (Comparison.equal.filter field piece).passes).map StoredRow.specimen)) ∧
    s.select [field.among list] =
      .ok ((s.rows.filter fun row => ∃ piece ∈ Clause.pieces list,
        row ∈ s.rows.filter (Comparison.equal.filter field piece).passes).map StoredRow.specimen) ∧
    s.rows.filter (Comparison.equal.filter field "").passes =
      s.rows.filter fun row => row.specimen.get field = .text "" := by
  obtain ⟨records, h⟩ := hs.holds
  refine ⟨h.nodup_rows, h.select_none, fun piece => ?_, ?_, ?_⟩
  · exact h.select_rows rfl (Comparison.equal.operandTexts_le field piece)
  · rw [h.select_rows (f := field.among list) rfl hlimit]
    congr 2
    refine List.filter_congr fun row hrow => ?_
    rw [Filter.passes_among, Bool.eq_iff_iff, List.any_eq_true, decide_eq_true_iff]
    simp only [List.mem_filter, hrow, true_and]
  · refine List.filter_congr fun row hrow => ?_
    rw [h.passes_field rfl hrow, Comparison.equal.testOf_filter, Specimen.meets_empty]

/-- A list of a text, a number, nothing and NaN, with a piece repeated, finds a species by the text of the number. -/
theorem select_among_five :
    (twins { species := "5" }).Reachable ∧ (Clause.pieces "(setosa, '5.0',, nan,5.0)").length ≤ Sql.parameterLimit ∧
    (twins { species := "5" }).select [Field.species.among "(setosa, '5.0',, nan,5.0)"] =
      .ok [{ species := "5" }, { species := "5" }] := by
  have hs : (twins { species := "5" }).Reachable := twins_reachable (Specimen.built_species "5")
  have hlimit : (Clause.pieces "(setosa, '5.0',, nan,5.0)").length ≤ Sql.parameterLimit := by decide +kernel
  obtain ⟨_, _, _, hselect, _⟩ := select_among hs .species hlimit
  refine ⟨hs, hlimit, hselect.trans (congrArg Except.ok ?_)⟩
  decide +kernel

end Store

end Herbarium
