import Herbarium.Database.Basic

/-!
Row numbers.

In a table none of whose rows named its own number, the rows are kept by falling numbers and none has the largest
number there can be: `Falling`. The number of a new row then exceeds every number in use (`lt_nextNumber`), so the row
comes first where rows are kept and last where they are read, and the rows fall again. Erasing rows keeps the order of
the others.
-/

namespace Herbarium.Table

/-- Rows by falling numbers, none of them the largest there can be. -/
structure Falling (rows : List StoredRow) : Prop where
  sorted : rows.Pairwise fun a b => b.number < a.number
  below : ∀ r ∈ rows, r.number ≠ largestNumber

theorem Falling.nil : Falling [] := ⟨List.Pairwise.nil, by simp⟩

theorem Falling.cons {row : StoredRow} {rows : List StoredRow} (h : Falling rows)
    (hlt : ∀ r ∈ rows, r.number < row.number) (hne : row.number ≠ largestNumber) : Falling (row :: rows) where
  sorted := List.pairwise_cons.mpr ⟨hlt, h.sorted⟩
  below := by
    intro r hr
    rcases List.mem_cons.mp hr with rfl | hr
    · exact hne
    · exact h.below r hr

theorem Falling.filter {rows : List StoredRow} (h : Falling rows) (p : StoredRow → Bool) :
    Falling (rows.filter p) :=
  ⟨h.sorted.filter p, fun r hr => h.below r ((List.mem_filter.mp hr).1)⟩

/-- The number of a new row follows that of the newest one, but for the largest number, which it passes by. -/
theorem nextNumber_cons {t : Table} {r : StoredRow} {rest : List StoredRow} (ht : t.rows = r :: rest)
    (hr : r.number ≠ largestNumber) : r.number < t.nextNumber ∧ t.nextNumber ≠ largestNumber := by
  simp only [nextNumber, ht, if_neg hr]
  split <;> omega

theorem nextNumber_ne_largest {t : Table} (h : Falling t.rows) : t.nextNumber ≠ largestNumber := by
  cases ht : t.rows with
  | nil => simp [nextNumber, ht, largestNumber]
  | cons r rest => exact (nextNumber_cons ht (h.below r (by simp [ht]))).2

/-- The number of a new row exceeds every number in use. -/
theorem lt_nextNumber {t : Table} (h : Falling t.rows) : ∀ r ∈ t.rows, r.number < t.nextNumber := by
  cases ht : t.rows with
  | nil => simp
  | cons r rest =>
    have hnext := (nextNumber_cons ht (h.below r (by simp [ht]))).1
    have hsorted := h.sorted
    rw [ht, List.pairwise_cons] at hsorted
    intro x hx
    rcases List.mem_cons.mp hx with rfl | hx
    · exact hnext
    · exact Int.lt_trans (hsorted.1 x hx) hnext

/-- A row whose number exceeds all others is put first. -/
theorem insertSorted_newest {row : StoredRow} {rows : List StoredRow} (h : ∀ r ∈ rows, r.number < row.number) :
    insertSorted row rows = row :: rows := by
  cases rows with
  | nil => rfl
  | cons r rest => simp [insertSorted, h r List.mem_cons_self]

end Herbarium.Table
