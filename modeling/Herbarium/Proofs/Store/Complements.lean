import Herbarium.Proofs.Store.Species

/-!
Equal and different.

A comparison of two values that are something holds or does not, and then one is equal to the other or different from
it (`holds_notEqual`). The cells of a specimen are never nothing, so each row is selected by exactly one of two
statements that ask for a field to be equal to a text and to be different from it, unless the text reads as NaN: that
is bound as nothing, which is neither equal to a value nor different from one (`parted_iff`).
-/

namespace Herbarium

open Outcome

namespace Value

/-- Whether a text reads as NaN. -/
def ReadsNaN (t : String) : Prop := ∃ x ∈ Binary64.read? (Text.trim t), x.isNaN = true

instance (t : String) : Decidable (ReadsNaN t) :=
  inferInstanceAs (Decidable (∃ x ∈ Binary64.read? (Text.trim t), x.isNaN = true))

theorem int?_getD_ne_null (n : Int) (x : Binary64) : (int? n).getD (.real x) ≠ .null := by
  unfold int?
  split <;> simp

/-- A text that denotes a number denotes an integer or a real. -/
theorem number?_ne_null {s : String} {v : Value} (h : number? s = some v) : v ≠ .null := by
  unfold number? at h
  dsimp only at h
  split at h
  · cases h
  · obtain ⟨e, _, rfl⟩ := Option.map_eq_some_iff.mp h
    split
    · exact int?_getD_ne_null _ _
    · simp

theorem parseNumber_eq_null {v : Value} : v.parseNumber = .null ↔ v = .null := by
  cases v with
  | text s =>
    rw [parseNumber]
    cases hnumber : number? s with
    | none => simp
    | some w => simpa using number?_ne_null hnumber
  | null | int n | real x => rfl

theorem parseText_eq_null {v : Value} : v.parseText = .null ↔ v = .null := by
  cases v <;> simp [parseText]

/-- Only nothing is compared as nothing. -/
theorem compareAs_eq_null {v : Value} {a : Affinity} : v.compareAs a = .null ↔ v = .null := by
  unfold compareAs
  split
  · exact parseNumber_eq_null
  · split
    · exact parseText_eq_null
    · rfl

/-- Values that are something have an order. -/
theorem order?_isSome {v w : Value} (hv : v ≠ .null) (hw : w ≠ .null) : ∃ o, order? v w = some o := by
  cases v <;> cases w <;> first | exact ⟨_, rfl⟩ | contradiction

theorem order?_null (v : Value) : order? v .null = none := by
  cases v <;> rfl

/-- A coerced text is bound as nothing if it reads as NaN. -/
theorem bind_coerce_eq_null {t : String} : (coerce t).bind = .null ↔ ReadsNaN t := by
  rw [coerce, ReadsNaN]
  cases hread : Binary64.read? (Text.trim t) with
  | none => simp [bind]
  | some x =>
    have hnarrow : (narrow x).bind = .null ↔ x.isNaN = true := by
      unfold narrow
      split
      case isTrue h =>
        have hwhole : x.isWhole = true := (Bool.and_eq_true_iff.mp h).1
        have hfinite : x.isFinite = true := (Bool.and_eq_true_iff.mp hwhole).1
        simp [bind, Binary64.not_isNaN_of_isFinite hfinite]
      case isFalse => simp [bind]
    simpa using hnarrow

end Value

namespace Comparison

variable {a : Affinity} {v w : Value}

/-- Of two values that are something, one is equal to the other or different from it. -/
theorem holds_notEqual (hv : v ≠ .null) (hw : w ≠ .null) : notEqual.holds a v w = !equal.holds a v w := by
  obtain ⟨o, ho⟩ := Value.order?_isSome (mt Value.compareAs_eq_null.mp hv) (mt Value.compareAs_eq_null.mp hw)
  rw [holds, holds, ho]
  rfl

/-- Nothing does not compare. -/
theorem holds_nothing (op : Comparison) (a : Affinity) (v : Value) : op.holds a v .null = false := by
  rw [holds, Value.compareAs_eq_null.mpr rfl, Value.order?_null]

end Comparison

namespace Specimen

theorem get_ne_null (r : Specimen) (field : Field) : r.get field ≠ .null := by
  cases field <;> exact Value.noConfusion

/-- Unless a text reads as NaN, a field is equal to it or different from it. -/
theorem meets_notEqual {t : String} (ht : ¬ Value.ReadsNaN t) (field : Field) (r : Specimen) :
    r.meets field (.compare .notEqual (.coerce t)) = !r.meets field (.compare .equal (.coerce t)) :=
  Comparison.holds_notEqual (r.get_ne_null field) (mt Value.bind_coerce_eq_null.mp ht)

/-- With a text that reads as NaN no field compares. -/
theorem meets_nan {t : String} (ht : Value.ReadsNaN t) (op : Comparison) (field : Field) (r : Specimen) :
    r.meets field (.compare op (.coerce t)) = false := by
  rw [meets, Test.holds, Value.bind_coerce_eq_null.mpr ht, op.holds_nothing]

end Specimen

namespace Store

variable {s : Store} {records : List Specimen} {field : Field} {value : String}

/-- Two statements that part the rows of a store: that a field is equal to a text, and that it is different from it.
Both are read, each row is selected by exactly one of them, and both together, in either order, delete all. -/
def Parted (s : Store) (field : Field) (value : String) : Prop :=
  ∃ f g, Filter.parse (field.name ++ "=" ++ value) = .ok f ∧ Filter.parse (field.name ++ "!=" ++ value) = .ok g ∧
    s.select [f] = .ok ((s.rows.filter f.passes).map StoredRow.specimen) ∧
    s.select [g] = .ok ((s.rows.filter g.passes).map StoredRow.specimen) ∧
    (∀ row ∈ s.rows, g.passes row = !f.passes row) ∧
    (s.run [.delete [f], .delete [g]]).select [] = .ok [] ∧ (s.run [.delete [g], .delete [f]]).select [] = .ok []

/-- What two comparisons of a field with a text, one after the other, leave of the specimens when they delete. -/
theorem Holds.run_deletions (h : s.Holds records) (op op' : Comparison) (field : Field) (value : String) :
    (s.run [.delete [op.filter field value], .delete [op'.filter field value]]).Holds
      (records.filter fun r => !r.meets field (.compare op (.coerce value)) &&
        !r.meets field (.compare op' (.coerce value))) := by
  obtain ⟨s₁, hdelete₁, h₁⟩ := h.delete_comparison op field value
  obtain ⟨s₂, hdelete₂, h₂⟩ := h₁.delete_comparison op' field value
  have hrun : s.run [.delete [op.filter field value], .delete [op'.filter field value]] = s₂ := by
    rw [Store.run, List.foldl_cons, after_ok (c := .delete [op.filter field value]) hdelete₁]
    exact after_ok (c := .delete [op'.filter field value]) hdelete₂
  rw [List.filter_filter] at h₂
  rw [hrun]
  simpa only [Bool.and_comm] using h₂

theorem Holds.parted (h : s.Holds records) (hvalue : Text.trim value ≠ "") (hnan : ¬ Value.ReadsNaN (Text.trim value))
    (field : Field) : s.Parted field value := by
  have hread : ∀ op : Comparison, Filter.parse (field.name ++ op.symbol ++ value) =
      .ok (op.filter field (Text.trim value)) :=
    fun op => Filter.parse_comparison field.isColumn_name op hvalue
  have hmeets := Specimen.meets_notEqual hnan field
  refine ⟨Comparison.equal.filter field (Text.trim value), Comparison.notEqual.filter field (Text.trim value),
    hread .equal, hread .notEqual, h.select_rows rfl (Comparison.operandTexts_le _ _ _),
    h.select_rows rfl (Comparison.operandTexts_le _ _ _), fun row hrow => ?_, ?_, ?_⟩
  · rw [h.passes_field rfl hrow, h.passes_field rfl hrow, Comparison.testOf_filter, Comparison.testOf_filter, hmeets]
  · have hafter := h.run_deletions .equal .notEqual field (Text.trim value)
    simp only [hmeets, Bool.not_not, Bool.not_and_self, List.filter_false] at hafter
    exact hafter.select
  · have hafter := h.run_deletions .notEqual .equal field (Text.trim value)
    simp only [hmeets, Bool.not_not, Bool.and_not_self, List.filter_false] at hafter
    exact hafter.select

theorem Holds.select_nan (h : s.Holds records) (hnan : Value.ReadsNaN value) (op : Comparison) (field : Field) :
    s.select [op.filter field value] = .ok [] := by
  rw [h.select_comparison, List.filter_eq_nil_iff.mpr]
  intro r _
  rw [r.meets_nan hnan]
  exact Bool.false_ne_true

/-- A store that holds a specimen is not parted by a text that reads as NaN: neither statement selects its row. -/
theorem Holds.not_parted (h : s.Holds records) (hne : records ≠ []) (hvalue : Text.trim value ≠ "")
    (hnan : Value.ReadsNaN (Text.trim value)) (field : Field) : ¬ s.Parted field value := by
  rintro ⟨f, g, hf, hg, -, -, -, hdeleted, -⟩
  have hread : ∀ op : Comparison, Filter.parse (field.name ++ op.symbol ++ value) =
      .ok (op.filter field (Text.trim value)) :=
    fun op => Filter.parse_comparison field.isColumn_name op hvalue
  obtain rfl := Except.ok.inj (hf.symm.trans (hread .equal))
  obtain rfl := Except.ok.inj (hg.symm.trans (hread .notEqual))
  have hafter := h.run_deletions .equal .notEqual field (Text.trim value)
  simp only [Specimen.meets_nan hnan, Bool.not_false, Bool.and_self, List.filter_true] at hafter
  exact hne (Except.ok.inj (hafter.select.symm.trans hdeleted))

/-- Equal and different are complements. For a text that is not blank, each row of a store is selected by exactly one of
the statements that a field is equal to it and that it is different from it, and deleting by both empties the store,
whatever the store, the field and the text, but for a text that reads as NaN. Such a text selects no row either way, and
both deletions together leave all of them. -/
theorem parted_iff (hvalue : Text.trim value ≠ "") :
    ((∀ (s : Store) (field : Field), s.Reachable → s.Parted field value) ↔ ¬ Value.ReadsNaN value) ∧
    (Value.ReadsNaN value → ∀ (s : Store) (field : Field), s.Reachable →
      ∃ f g, Filter.parse (field.name ++ "=" ++ value) = .ok f ∧ Filter.parse (field.name ++ "!=" ++ value) = .ok g ∧
        s.select [f] = .ok [] ∧ s.select [g] = .ok [] ∧
        (s.run [.delete [f], .delete [g]]).select [] = s.select []) := by
  have htrim : Value.ReadsNaN (Text.trim value) ↔ Value.ReadsNaN value := by
    rw [Value.ReadsNaN, Value.ReadsNaN, Text.trim_trim]
  refine ⟨⟨fun hparted hnan => ?_, fun hnan s field hs => ?_⟩, fun hnan s field hs => ?_⟩
  · have h := holds_twins Specimen.Built.blank
    exact h.not_parted (List.cons_ne_nil _ _) hvalue (htrim.mpr hnan) .species
      (hparted _ .species (twins_reachable Specimen.Built.blank))
  · obtain ⟨records, h⟩ := hs.holds
    exact h.parted hvalue (mt htrim.mp hnan) field
  · obtain ⟨records, h⟩ := hs.holds
    have hnan := htrim.mpr hnan
    have hafter := h.run_deletions .equal .notEqual field (Text.trim value)
    simp only [Specimen.meets_nan hnan, Bool.not_false, Bool.and_self, List.filter_true] at hafter
    exact ⟨_, _, Filter.parse_comparison field.isColumn_name .equal hvalue,
      Filter.parse_comparison field.isColumn_name .notEqual hvalue, h.select_nan hnan .equal field,
      h.select_nan hnan .notEqual field, hafter.select.trans h.select.symm⟩

/-- Infinity, with blanks around it. -/
theorem parted_iff_infinity :
    Text.trim " -inf " ≠ "" ∧ ∀ (s : Store) (field : Field), s.Reachable → s.Parted field " -inf " := by
  have hvalue : Text.trim " -inf " ≠ "" := by decide +kernel
  exact ⟨hvalue, (parted_iff hvalue).1.mpr (by decide +kernel)⟩

/-- Equal and different are not complements for every text: a species is neither equal to NaN nor different from it. -/
theorem not_parted_nan :
    ¬ ∀ (s : Store) (field : Field) (value : String), s.Reachable → Text.trim value ≠ "" → s.Parted field value := by
  intro hclaim
  have hvalue : Text.trim "nan" ≠ "" := by decide +kernel
  have hnan : Value.ReadsNaN (Text.trim "nan") := by decide +kernel
  have h := holds_twins (Specimen.built_species "setosa")
  exact h.not_parted (List.cons_ne_nil _ _) hvalue hnan .species
    (hclaim _ .species "nan" (twins_reachable (Specimen.built_species "setosa")) hvalue)

end Store

end Herbarium
