import Herbarium.Clause
import Herbarium.Proofs.Outcome

/-!
Columns of compiled filters.

A column goes into the text of a clause as it stands, so it must be a name or a number, `IsColumn`. Filters are
compiled when all their columns are (`compile_cons`), and refused for the first one that is not
(`compile_eq_error_iff`).
-/

namespace Herbarium.Clause

open Outcome

/-- A name of letters, digits and underscores that starts with no digit, or digits only. -/
inductive IsColumn : List Char → Prop where
  | name {c : Char} {cs : List Char} : c.isAlpha ∨ c = '_' → (∀ d ∈ cs, d.isAlphanum ∨ d = '_') → IsColumn (c :: cs)
  | number {cs : List Char} : cs ≠ [] → (∀ d ∈ cs, d.isDigit) → IsColumn cs

theorem isDigit_eq (c : Char) : Text.isDigit c = c.isDigit := rfl

theorem isLetter_iff (c : Char) : Text.isLetter c = true ↔ c.isAlpha = true := by
  have hupper : c.isUpper = true ↔ 'A' ≤ c ∧ c ≤ 'Z' := decide_eq_true_iff
  have hlower : c.isLower = true ↔ 'a' ≤ c ∧ c ≤ 'z' := by
    show (decide ('a'.val ≤ c.val) && decide (c.val ≤ 'z'.val)) = true ↔ _
    rw [Bool.and_eq_true, decide_eq_true_eq, decide_eq_true_eq]
    exact Iff.rfl
  have halpha : c.isAlpha = (c.isUpper || c.isLower) := rfl
  rw [Text.isLetter, halpha, Bool.or_eq_true, Bool.or_eq_true, hupper, hlower, or_comm]
  simp only [Bool.and_eq_true, decide_eq_true_eq]

theorem isNameStart_iff (c : Char) : isNameStart c = true ↔ c.isAlpha = true ∨ c = '_' := by
  rw [isNameStart, Bool.or_eq_true, isLetter_iff, beq_iff_eq]

theorem isNamePart_iff (c : Char) : isNamePart c = true ↔ c.isAlphanum = true ∨ c = '_' := by
  rw [isNamePart, Bool.or_eq_true, isNameStart_iff, isDigit_eq, Char.isAlphanum, Bool.or_eq_true, or_right_comm]

theorem isIdentifier_cons {c : Char} {cs : List Char} :
    isIdentifier (c :: cs) = true ↔ (c.isAlpha = true ∨ c = '_') ∧ ∀ d ∈ cs, d.isAlphanum = true ∨ d = '_' := by
  simp only [isIdentifier, Bool.and_eq_true, isNameStart_iff, List.all_eq_true, isNamePart_iff]

theorem isLiteral_iff {cs : List Char} : isLiteral cs = true ↔ cs ≠ [] ∧ ∀ d ∈ cs, d.isDigit = true := by
  simp only [isLiteral, Bool.and_eq_true, Bool.not_eq_true', List.isEmpty_eq_false_iff, List.all_eq_true, isDigit_eq,
    ne_eq]

theorem isColumn_iff {cs : List Char} : isIdentifier cs = true ∨ isLiteral cs = true ↔ IsColumn cs := by
  constructor
  · rintro (h | h)
    · cases cs with
      | nil => cases h
      | cons c cs => exact .name (isIdentifier_cons.mp h).1 (isIdentifier_cons.mp h).2
    · exact .number (isLiteral_iff.mp h).1 (isLiteral_iff.mp h).2
  · intro h
    cases h with
    | name hc hcs => exact Or.inl (isIdentifier_cons.mpr ⟨hc, hcs⟩)
    | number hne hcs => exact Or.inr (isLiteral_iff.mpr ⟨hne, hcs⟩)

theorem admits_iff {column : String} : admits column = true ↔ IsColumn column.toList := by
  rw [admits, Bool.or_eq_true, isColumn_iff]

/-- What a column can be made of. -/
theorem IsColumn.chars {cs : List Char} (h : IsColumn cs) : ∀ c ∈ cs, c.isAlphanum = true ∨ c = '_' := by
  cases h with
  | name hc hcs =>
    intro d hd
    rcases List.mem_cons.mp hd with rfl | hd
    · exact hc.imp_left fun h => by rw [Char.isAlphanum, h, Bool.true_or]
    · exact hcs d hd
  | number _ hcs =>
    intro d hd
    left
    rw [Char.isAlphanum, hcs d hd, Bool.or_true]

theorem IsColumn.ne_nil {cs : List Char} (h : IsColumn cs) : cs ≠ [] := by
  cases h with
  | name => exact List.cons_ne_nil _ _
  | number hne => exact hne

/-! ## What is compiled -/

/-- The condition that a filter becomes. -/
def condition (f : Filter) : Condition := { column := f.column, test := testOf f }

theorem column_condition (f : Filter) : (condition f).column = f.column := rfl

theorem conditionOf_ok {f : Filter} (h : IsColumn f.column.toList) : conditionOf f = .ok (condition f) := by
  rw [conditionOf, if_pos (admits_iff.mpr h)]
  rfl

theorem conditionOf_error {f : Filter} (h : ¬ IsColumn f.column.toList) :
    conditionOf f = .error (.invalidColumn f.column) := by
  rw [conditionOf, if_neg (mt admits_iff.mp h)]

/-- Filters on columns are compiled, each to its condition. -/
theorem compile_cons {f : Filter} {fs : List Filter} (h : ∀ g ∈ f :: fs, IsColumn g.column.toList) :
    compile (f :: fs) = .ok (some { first := condition f, others := fs.map condition }) := by
  have hmap : (f :: fs).mapM conditionOf = .ok ((f :: fs).map condition) :=
    mapM_eq_ok fun g hg => conditionOf_ok (h g hg)
  rw [compile, hmap, ok_bind]
  rfl

/-- The first filter on what is no column is refused. -/
theorem mapM_conditionOf_error {f : Filter} {post : List Filter} (hf : ¬ IsColumn f.column.toList) :
    ∀ pre : List Filter, (∀ g ∈ pre, IsColumn g.column.toList) →
      (pre ++ f :: post).mapM conditionOf = .error (.invalidColumn f.column)
  | [], _ => by
    rw [List.nil_append, List.mapM_cons, conditionOf_error hf, error_bind]
  | g :: pre, h => by
    rw [List.cons_append, List.mapM_cons, conditionOf_ok (h g List.mem_cons_self), ok_bind,
      mapM_conditionOf_error hf pre fun g' hg' => h g' (List.mem_cons_of_mem g hg'), error_bind]

/-- Filters are all on columns, or there is a first one that is not. -/
theorem isColumn_or_first (fs : List Filter) :
    (∀ f ∈ fs, IsColumn f.column.toList) ∨
      ∃ pre f post, fs = pre ++ f :: post ∧ (∀ g ∈ pre, IsColumn g.column.toList) ∧
        ¬ IsColumn f.column.toList := by
  induction fs with
  | nil => exact Or.inl (by simp)
  | cons g fs ih =>
    by_cases hg : IsColumn g.column.toList
    · rcases ih with hall | ⟨pre, f, post, rfl, hpre, hf⟩
      · exact Or.inl (List.forall_mem_cons.mpr ⟨hg, hall⟩)
      · exact Or.inr ⟨g :: pre, f, post, rfl, List.forall_mem_cons.mpr ⟨hg, hpre⟩, hf⟩
    · exact Or.inr ⟨[], g, fs, rfl, by simp, hg⟩

/-- Filters are refused exactly for their first column that is none. -/
theorem compile_eq_error_iff {fs : List Filter} {fault : Fault} :
    compile fs = .error fault ↔
      ∃ pre f post, fs = pre ++ f :: post ∧ (∀ g ∈ pre, IsColumn g.column.toList) ∧
        ¬ IsColumn f.column.toList ∧ fault = .invalidColumn f.column := by
  constructor
  · intro h
    rcases isColumn_or_first fs with hall | ⟨pre, f, post, rfl, hpre, hf⟩
    · cases fs with
      | nil => cases h
      | cons f fs =>
        rw [compile_cons hall] at h
        cases h
    · rw [compile, mapM_conditionOf_error hf pre hpre, error_bind] at h
      injection h with h
      exact ⟨pre, f, post, rfl, hpre, hf, h.symm⟩
  · rintro ⟨pre, f, post, rfl, hpre, hf, rfl⟩
    rw [compile, mapM_conditionOf_error hf pre hpre, error_bind]

/-- What is compiled is the conditions of filters on columns. -/
theorem compile_eq_some_iff {fs : List Filter} {clause : Clause} :
    compile fs = .ok (some clause) ↔
      (∀ f ∈ fs, IsColumn f.column.toList) ∧ fs ≠ [] ∧ clause.conditions = fs.map condition := by
  constructor
  · intro h
    rcases isColumn_or_first fs with hall | ⟨pre, f, post, rfl, hpre, hf⟩
    · cases fs with
      | nil => cases h
      | cons f fs =>
        rw [compile_cons hall] at h
        cases h
        exact ⟨hall, List.cons_ne_nil f fs, rfl⟩
    · rw [compile, mapM_conditionOf_error hf pre hpre, error_bind] at h
      cases h
  · rintro ⟨hall, hne, hconditions⟩
    cases fs with
    | nil => exact absurd rfl hne
    | cons f fs =>
      rw [compile_cons hall]
      obtain ⟨first, others⟩ := clause
      injection hconditions with hfirst hothers
      subst hfirst hothers
      rfl

theorem compile_ok_some {fs : List Filter} {compiled : Option Clause} (hne : fs ≠ [])
    (h : compile fs = .ok compiled) : ∃ clause, compiled = some clause := by
  rcases isColumn_or_first fs with hall | hfirst
  · obtain ⟨f, fs, rfl⟩ := List.exists_cons_of_ne_nil hne
    rw [compile_cons hall] at h
    cases h
    exact ⟨_, rfl⟩
  · obtain ⟨pre, f, post, hfs, hpre, hf⟩ := hfirst
    rw [compile_eq_error_iff.mpr ⟨pre, f, post, hfs, hpre, hf, rfl⟩] at h
    cases h

theorem isColumn_of_compile {f : Filter} {fs : List Filter} {compiled : Option Clause} (hf : f ∈ fs)
    (h : compile fs = .ok compiled) : IsColumn f.column.toList := by
  obtain ⟨clause, rfl⟩ := compile_ok_some (List.ne_nil_of_mem hf) h
  exact (compile_eq_some_iff.mp h).1 f hf

end Herbarium.Clause
