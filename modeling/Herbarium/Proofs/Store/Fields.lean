import Herbarium.Proofs.Clause.Placeholders
import Herbarium.Proofs.Filter.Comparisons
import Herbarium.Proofs.Store.Selection

/-!
Filters on the fields of specimens.

A filter on a column of the table tests the value of one field, under the affinity of the column, against what its text
was coerced to: `Specimen.meets`. The table answers such a filter whatever its text, as long as a value list has no more
pieces than a statement has room for. So it selects the specimens that meet it (`Holds.select_field`), and a deletion
leaves the others (`Holds.delete_field`). A comparison asks for one of the relations of an order, `Comparison.Relates`,
whichever order decides it.
-/

namespace Herbarium

open Outcome

/-! ## Comparisons as relations -/

namespace Comparison

/-- The filter that compares a field with a text. -/
def filter (op : Comparison) (field : Field) (value : String) : Filter :=
  { column := field.name, operator := op.operator, value }

variable {α : Type} [LT α] {a b : α}

/-- The relation a comparison asks for. -/
def Relates : Comparison → α → α → Prop
  | equal, a, b => a = b
  | notEqual, a, b => a ≠ b
  | lessThan, a, b => a < b
  | greaterThan, a, b => b < a

instance [DecidableEq α] [DecidableLT α] (op : Comparison) (a b : α) : Decidable (op.Relates a b) :=
  match op with
  | equal => inferInstanceAs (Decidable (a = b))
  | notEqual => inferInstanceAs (Decidable (a ≠ b))
  | lessThan => inferInstanceAs (Decidable (a < b))
  | greaterThan => inferInstanceAs (Decidable (b < a))

theorem admits_iff {o : Ordering} (hlt : o = .lt ↔ a < b) (heq : o = .eq ↔ a = b) (hgt : o = .gt ↔ b < a)
    (op : Comparison) : op.admits o = true ↔ op.Relates a b := by
  cases op with
  | equal => rw [admits, beq_iff_eq, heq, Relates]
  | notEqual => rw [admits, bne_iff_ne, Relates, ne_eq, ne_eq, heq]
  | lessThan => rw [admits, beq_iff_eq, hlt, Relates]
  | greaterThan => rw [admits, beq_iff_eq, hgt, Relates]

theorem testOf_filter (op : Comparison) (field : Field) (value : String) :
    Clause.testOf (op.filter field value) = .compare op (.coerce value) := by
  cases op <;> rfl

theorem operandTexts_le (op : Comparison) (field : Field) (value : String) :
    (op.filter field value).operandTexts.length ≤ Sql.parameterLimit := by
  have htexts : (op.filter field value).operandTexts = [value] := by cases op <;> rfl
  rw [htexts, List.length_singleton]
  decide

end Comparison

/-! ## Fields and their columns -/

/-- The affinity of the column that stores a field. -/
def Field.affinity (field : Field) : Affinity := if field = .species then .text else .real

/-- Whether the field of a specimen passes a test. -/
def Specimen.meets (field : Field) (t : Test) (r : Specimen) : Bool := t.holds field.affinity (r.get field)

theorem Specimen.value_operand {row : StoredRow} {r : Specimen} (h : row.cells = r.cells) (field : Field) :
    (operand field).value row = r.get field := by
  obtain ⟨number, cells⟩ := row
  subst h
  cases field <;> rfl

theorem Specimen.operand?_name (field : Field) : (table []).operand? field.name = some (operand field) := by
  cases field <;> rfl

theorem Field.isColumn_name (field : Field) : Clause.IsColumn field.name.toList := by
  refine Clause.admits_iff.mp ?_
  cases field <;> decide

theorem Field.isOperandWord_name (field : Field) : Sql.IsOperandWord field.name := by
  unfold Sql.IsOperandWord
  cases field <;> decide

namespace Store

variable {s : Store} {records : List Specimen} {f : Filter} {field : Field}

/-- A filter on a field can be answered, whatever it compares the field with. -/
theorem answerable_field (hcolumn : f.column = field.name) (hlimit : f.operandTexts.length ≤ Sql.parameterLimit) :
    Answerable [f] where
  columns := List.forall_mem_singleton.mpr (hcolumn ▸ field.isColumn_name)
  answers := {
    admitted := {
      words := by
        refine List.forall_mem_singleton.mpr ?_
        rw [Clause.column_condition, hcolumn]
        exact field.isOperandWord_name
      parameters := by
        have hcount : Sql.parameterCount [Clause.condition f] = f.operandTexts.length := by
          rw [Sql.parameterCount_singleton, Clause.operands_condition, List.length_map]
        exact hcount ▸ hlimit
      height := Sql.height_le _ }
    known := by
      refine List.forall_mem_singleton.mpr ?_
      rw [Clause.column_condition, hcolumn, Specimen.operand?_name]
      rfl }

theorem Holds.passes_field (h : s.Holds records) (hcolumn : f.column = field.name) {row : StoredRow}
    (hrow : row ∈ s.rows) : f.passes row = row.specimen.meets field (Clause.testOf f) := by
  have haffinity : (Specimen.operand field).affinity = field.affinity := rfl
  rw [Filter.passes, Table.passes, Clause.column_condition, hcolumn, Specimen.operand?_name]
  simp only [haffinity, Specimen.value_operand (h.mem_rows hrow).2]
  rfl

theorem Holds.filter_specimen (h : s.Holds records) {q : StoredRow → Bool} {p : Specimen → Bool}
    (hqp : ∀ row ∈ s.rows, q row = p row.specimen) :
    (s.rows.filter q).map StoredRow.specimen = records.filter p := by
  calc (s.rows.filter q).map StoredRow.specimen
      = (s.rows.filter fun row => p row.specimen).map StoredRow.specimen := by rw [List.filter_congr hqp]
    _ = (s.rows.map StoredRow.specimen).filter p := List.filter_map.symm
    _ = records.filter p := by rw [h.map_specimen]

/-- A filter on a field selects the rows that pass it. -/
theorem Holds.select_rows (h : s.Holds records) (hcolumn : f.column = field.name)
    (hlimit : f.operandTexts.length ≤ Sql.parameterLimit) :
    s.select [f] = .ok ((s.rows.filter f.passes).map StoredRow.specimen) := by
  rw [h.select_answerable (List.cons_ne_nil f []) (answerable_field hcolumn hlimit), Filter.allPass_singleton]

/-- A filter on a field selects the specimens that meet it. -/
theorem Holds.select_field (h : s.Holds records) (hcolumn : f.column = field.name)
    (hlimit : f.operandTexts.length ≤ Sql.parameterLimit) :
    s.select [f] = .ok (records.filter (Specimen.meets field (Clause.testOf f))) := by
  rw [h.select_rows hcolumn hlimit, h.filter_specimen fun row hrow => h.passes_field hcolumn hrow]

/-- A deletion by a filter on a field leaves the specimens that do not meet it. -/
theorem Holds.delete_field (h : s.Holds records) (hcolumn : f.column = field.name)
    (hlimit : f.operandTexts.length ≤ Sql.parameterLimit) :
    ∃ s', s.delete [f] = .ok ((records.filter (Specimen.meets field (Clause.testOf f))).length, s') ∧
      s'.Holds (records.filter fun r => !r.meets field (Clause.testOf f)) := by
  obtain ⟨records', h', hrows'⟩ := h.erase f.passes
  have hrest : records' = records.filter fun r => !r.meets field (Clause.testOf f) := by
    rw [← h'.map_specimen, hrows']
    apply h.filter_specimen
    intro row hrow
    rw [h.passes_field hcolumn hrow]
  refine ⟨_, ?_, hrest ▸ h'⟩
  rw [h.delete_answerable (List.cons_ne_nil f []) (answerable_field hcolumn hlimit), Filter.allPass_singleton,
    ← h.filter_specimen fun row hrow => h.passes_field hcolumn hrow, List.length_map]

/-- A comparison on a field selects the specimens whose value compares as asked with the coerced text. -/
theorem Holds.select_comparison (h : s.Holds records) (op : Comparison) (field : Field) (value : String) :
    s.select [op.filter field value] = .ok (records.filter (Specimen.meets field (.compare op (.coerce value)))) := by
  rw [h.select_field rfl (op.operandTexts_le field value), op.testOf_filter]

theorem Holds.delete_comparison (h : s.Holds records) (op : Comparison) (field : Field) (value : String) :
    ∃ s', s.delete [op.filter field value] =
        .ok ((records.filter (Specimen.meets field (.compare op (.coerce value)))).length, s') ∧
      s'.Holds (records.filter fun r => !r.meets field (.compare op (.coerce value))) := by
  rw [← op.testOf_filter field value]
  exact h.delete_field rfl (op.operandTexts_le field value)

end Store

end Herbarium
