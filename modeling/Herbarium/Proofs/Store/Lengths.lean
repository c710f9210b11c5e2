import Herbarium.Proofs.Binary64.Exact
import Herbarium.Proofs.Store.Fields

/-!
Filters on lengths.

Against a text that is a number, a comparison on a field of lengths selects the specimens whose length compares as asked
with the number, both taken as the real numbers they stand for (`holds_real`). That the number may go into the
statement as an integer makes no difference, as it is an integer of the same value then (`holds_narrow`). Numbers come
before texts, so against a text that is no number all specimens are less and different, and none is equal or greater
(`holds_text`).
-/

namespace Herbarium

open Outcome

theorem Field.affinity_float {field : Field} (h : field.type = .float) : field.affinity = .real := by
  cases field with
  | species => exact absurd h (by decide)
  | sepalLength | sepalWidth | petalLength | petalWidth => rfl

/-- A comparison of a length is one of reals. -/
theorem Specimen.meets_length (r : Specimen) {field : Field} (h : field.type = .float) (op : Comparison) (v : Value) :
    r.meets field (.compare op v) = op.holds .real (.real (r.length field h)) v.bind := by
  rw [meets, Field.affinity_float h, r.get_length h]
  rfl

namespace Comparison

variable {x y : Binary64}

theorem order?_narrow (y x : Binary64) : Value.order? (.real y) (.narrow x) = some (y.compareNumeric x) := by
  rcases Value.narrow_cases x with hreal | ⟨n, hint, hsteps⟩
  · rw [hreal]
    rfl
  · rw [hint, Value.order?, Binary64.compareInt, hsteps, Int.compare_swap]
    rfl

theorem compareAs_real (hx : x.isNaN = false) : (Value.real x).bind.compareAs .real = .real x := by
  rw [Value.bind, hx]
  rfl

theorem compareAs_narrow (hx : x.isNaN = false) : (Value.narrow x).bind.compareAs .real = .narrow x := by
  rcases Value.narrow_cases x with hreal | ⟨n, hint, _⟩
  · rw [hreal, compareAs_real hx]
  · rw [hint]
    rfl

/-- Comparing with a number that narrowed is comparing with the number. -/
theorem holds_narrow (op : Comparison) (y : Binary64) (hx : x.isNaN = false) :
    op.holds .real (.real y) (Value.narrow x).bind = op.holds .real (.real y) (Value.real x).bind := by
  have hlength : (Value.real y).compareAs .real = .real y := rfl
  rw [holds, holds, hlength, compareAs_narrow hx, compareAs_real hx, order?_narrow]
  rfl

/-- A length compares with a number as the reals they stand for. -/
theorem holds_real (op : Comparison) (hy : y.isNaN = false) (hx : x.isNaN = false) :
    op.holds .real (.real y) (Value.real x).bind = true ↔ op.Relates y.toEReal x.toEReal := by
  have horder : op.holds .real (.real y) (Value.real x).bind = op.admits (y.compareNumeric x) := by
    rw [holds, compareAs_real hx]
    rfl
  rw [horder, Binary64.compareNumeric_eq hy hx]
  exact op.admits_iff compare_lt_iff_lt compare_eq_iff_eq compare_gt_iff_gt

/-- All lengths come before a text that is no number. -/
theorem holds_text (op : Comparison) (y : Binary64) {value : String} (hvalue : Value.number? value = none) :
    op.holds .real (.real y) (Value.text value).bind = decide (op = .lessThan ∨ op = .notEqual) := by
  have htext : (Value.text value).bind.compareAs .real = .text value := by
    show (Value.number? value).getD (.text value) = .text value
    rw [hvalue, Option.getD_none]
  rw [holds, htext]
  cases op <;> rfl

end Comparison

namespace Store

variable {s : Store} {field : Field}

theorem Holds.select_lengths (h : s.Holds records) (op : Comparison) (value : String) {p : StoredRow → Bool}
    (hp : ∀ row ∈ s.rows, row.specimen.meets field (.compare op (.coerce value)) = p row) :
    s.select [op.filter field value] = .ok ((s.rows.filter p).map StoredRow.specimen) := by
  have hpasses : ∀ row ∈ s.rows, (op.filter field value).passes row = p row := by
    intro row hrow
    rw [h.passes_field rfl hrow, op.testOf_filter, hp row hrow]
  rw [h.select_rows rfl (op.operandTexts_le field value), List.filter_congr hpasses]

/-- Comparisons on lengths have exact numeric meaning. Where the text reads as a number other than NaN, the rows
selected are those whose length relates as asked to the number, as extended real numbers; whether the number went into
the statement as an integer made no difference for any of them. Where the text reads as no number, neither to the store
nor to the database, all rows are selected as less or different, none as equal or greater. Rows stand for places in the
table: none occurs twice. -/
theorem select_length_exact (hs : s.Reachable) (hfield : field.type = .float) (op : Comparison) (value : String) :
    s.rows.Nodup ∧ s.select [] = .ok (s.rows.map StoredRow.specimen) ∧
    (∀ x, Binary64.read? (Text.trim value) = some x → x.isNaN = false →
      s.select [op.filter field value] =
          .ok ((s.rows.filter fun row =>
            op.Relates (row.specimen.length field hfield).toEReal x.toEReal).map StoredRow.specimen) ∧
        ∀ row ∈ s.rows, row.specimen.meets field (.compare op (.coerce value)) =
          row.specimen.meets field (.compare op (.real x))) ∧
    (Binary64.read? (Text.trim value) = none → Value.number? value = none →
      s.select [op.filter field value] =
        .ok (if op = .lessThan ∨ op = .notEqual then s.rows.map StoredRow.specimen else [])) := by
  obtain ⟨records, h⟩ := hs.holds
  refine ⟨h.nodup_rows, h.select_none, fun x hread hx => ?_, fun hread hvalue => ?_⟩
  · have hcoerce : Value.coerce value = .narrow x := by rw [Value.coerce, hread]
    have hnarrow : ∀ r : Specimen,
        r.meets field (.compare op (.coerce value)) = r.meets field (.compare op (.real x)) := by
      intro r
      rw [r.meets_length hfield, r.meets_length hfield, hcoerce, op.holds_narrow _ hx]
    refine ⟨h.select_lengths op value fun row hrow => ?_, fun row _ => hnarrow row.specimen⟩
    have hlength : (row.specimen.length field hfield).isNaN = false :=
      Binary64.not_isNaN_of_isFinite (h.finite _ (h.mem_rows hrow).1 _ (row.specimen.length_mem hfield))
    rw [Bool.eq_iff_iff, decide_eq_true_iff, hnarrow, row.specimen.meets_length hfield]
    exact op.holds_real hlength hx
  · have hcoerce : Value.coerce value = .text value := by rw [Value.coerce, hread]
    have hall : ∀ r : Specimen,
        r.meets field (.compare op (.coerce value)) = decide (op = .lessThan ∨ op = .notEqual) := by
      intro r
      rw [r.meets_length hfield, hcoerce, op.holds_text _ hvalue]
    rw [h.select_lengths op value fun row _ => hall row.specimen]
    by_cases hless : op = .lessThan ∨ op = .notEqual
    · rw [if_pos hless, List.filter_eq_self.mpr fun _ _ => decide_eq_true hless]
    · rw [if_neg hless, List.filter_eq_nil_iff.mpr fun _ _ => ne_true_of_eq_false (decide_eq_false hless)]
      rfl

/-- The sepal lengths of two specimens, compared with 2⁶³, which stays a real, and with a text. -/
theorem select_length_exact_limit :
    (twins {}).Reachable ∧ Field.sepalLength.type = .float ∧
    (twins {}).select [] = .ok ((twins {}).rows.map StoredRow.specimen) ∧
    (twins {}).select [Comparison.lessThan.filter .sepalLength "9223372036854775807"] =
      .ok (((twins {}).rows.filter fun row =>
        Comparison.lessThan.Relates row.specimen.sepalLength.toEReal Value.narrowLimit.toEReal).map
          StoredRow.specimen) ∧
    (twins {}).select [Comparison.lessThan.filter .sepalLength "tall"] =
      .ok ((twins {}).rows.map StoredRow.specimen) := by
  have hs : (twins {}).Reachable := twins_reachable Specimen.Built.blank
  have hfield : Field.sepalLength.type = .float := rfl
  have hread : Binary64.read? (Text.trim "9223372036854775807") = some Value.narrowLimit := by decide +kernel
  have htext : Binary64.read? (Text.trim "tall") = none := by decide +kernel
  have hnumber : Value.number? "tall" = none := by decide +kernel
  obtain ⟨_, hshown, hreal, _⟩ := select_length_exact hs hfield .lessThan "9223372036854775807"
  obtain ⟨_, _, _, hword⟩ := select_length_exact hs hfield .lessThan "tall"
  exact ⟨hs, hfield, hshown, (hreal _ hread (by decide +kernel)).1, hword htext hnumber⟩

end Store

end Herbarium
