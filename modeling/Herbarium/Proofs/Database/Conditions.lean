import Herbarium.Database.Operations
import Herbarium.Proofs.Clause.Columns

/-!
Conditions of a statement.

Where the conditions of a statement stand in its text decides which fault a bad one is reported with, but not whether it
is one: conditions are admitted when their columns may stand before a comparison, their parameters are not too many and
the tree they make is not too high, `Sql.Admitted`. A table answers admitted conditions whose columns it knows,
`Table.Answers`. Then all conditions hold of a row exactly when the row passes each of them on its own
(`bindConditions_known`); otherwise the statement fails, whatever else it does (`clause_cases`). Filters become such
conditions if their columns are admitted (`clause_answered`).
-/

namespace Herbarium

open Outcome
open Sql (Statement Fault)

namespace Sql

/-- Whether a word may stand before a comparison. -/
def IsOperandWord (word : String) : Prop :=
  isOpening word = false ∧ (isReserved word = true → Text.asciiFold word = "null")

/-- The height of a tree after one more condition is joined to it; there is no tree before the first one. -/
def joinHeight (joined : Nat) (c : Condition) : Nat :=
  if joined = 0 then height c else 1 + max joined (height c)

/-- The height of the tree that conditions make, joined from the left. -/
def treeHeight (conditions : List Condition) : Nat := conditions.foldl joinHeight 0

/-- The number of parameters of conditions. -/
def parameterCount (conditions : List Condition) : Nat := (conditions.flatMap fun c => c.test.operands).length

/-- Conditions that a statement may have. -/
structure Admitted (conditions : List Condition) : Prop where
  words : ∀ c ∈ conditions, IsOperandWord c.column
  parameters : parameterCount conditions ≤ parameterLimit
  height : treeHeight conditions ≤ heightLimit

theorem parameterCount_append (conditions conditions' : List Condition) :
    parameterCount (conditions ++ conditions') = parameterCount conditions + parameterCount conditions' := by
  rw [parameterCount, List.flatMap_append, List.length_append]
  rfl

theorem parameterCount_singleton (c : Condition) : parameterCount [c] = c.test.operands.length := by
  rw [parameterCount, List.flatMap_singleton]

theorem parameterCount_cons (c : Condition) (rest : List Condition) :
    parameterCount (c :: rest) = c.test.operands.length + parameterCount rest := by
  rw [← List.singleton_append, parameterCount_append, parameterCount_singleton]

theorem height_le (c : Condition) : height c ≤ heightLimit := by
  unfold height
  split <;> decide

theorem checkColumnWord_eq_ok {c : Condition} {offset : Nat} :
    checkColumnWord c offset = .ok () ↔ IsOperandWord c.column := by
  rw [checkColumnWord, IsOperandWord]
  cases isOpening c.column with
  | true => simp
  | false => cases isReserved c.column <;> simp

theorem le_foldl_joinHeight (conditions : List Condition) (joined : Nat) :
    joined ≤ conditions.foldl joinHeight joined := by
  induction conditions generalizing joined with
  | nil => exact Nat.le_refl joined
  | cons c rest ih =>
    refine Nat.le_trans ?_ (ih (joinHeight joined c))
    unfold joinHeight
    split <;> omega

theorem checkConditions_cons {c : Condition} {rest : List Condition} {offset parameters joined : Nat} :
    checkConditions offset parameters joined (c :: rest) = .ok () ↔
      IsOperandWord c.column ∧ parameters + c.test.operands.length ≤ parameterLimit ∧
        joinHeight joined c ≤ heightLimit ∧
        checkConditions (offset + c.sql.utf8ByteSize + 5) (parameters + c.test.operands.length)
          (joinHeight joined c) rest = .ok () := by
  have hjoin : (if joined = 0 then height c else 1 + max joined (height c)) = joinHeight joined c := rfl
  rw [checkConditions, check_bind_eq_ok, checkColumnWord_eq_ok, ← Nat.not_lt, ← Nat.not_lt]
  simp only [hjoin]
  refine and_congr_right fun _ => ?_
  by_cases hmany : parameterLimit < parameters + c.test.operands.length
  · simp [hmany]
  · by_cases hhigh : heightLimit < joinHeight joined c
    · simp [hmany, hhigh]
    · simp [hmany, hhigh]

/-- Where the conditions start does not decide whether they pass the check. -/
theorem checkConditions_eq_ok {conditions : List Condition} {offset parameters joined : Nat}
    (hparameters : parameters ≤ parameterLimit) (hjoined : joined ≤ heightLimit) :
    checkConditions offset parameters joined conditions = .ok () ↔
      (∀ c ∈ conditions, IsOperandWord c.column) ∧ parameters + parameterCount conditions ≤ parameterLimit ∧
        conditions.foldl joinHeight joined ≤ heightLimit := by
  induction conditions generalizing offset parameters joined with
  | nil => simpa [checkConditions, parameterCount] using ⟨hparameters, hjoined⟩
  | cons c rest ih =>
    have hcount : parameters + parameterCount (c :: rest) =
        parameters + c.test.operands.length + parameterCount rest := by
      rw [parameterCount_cons, ← Nat.add_assoc]
    rw [checkConditions_cons, hcount, List.foldl_cons, List.forall_mem_cons]
    constructor
    · rintro ⟨hword, hmany, hhigh, hrest⟩
      obtain ⟨hwords, hrest⟩ := (ih hmany hhigh).mp hrest
      exact ⟨⟨hword, hwords⟩, hrest⟩
    · rintro ⟨⟨hword, hwords⟩, hmany, hhigh⟩
      -- what all conditions together keep to, the first one keeps to
      have hmany' : parameters + c.test.operands.length ≤ parameterLimit := Nat.le_of_add_right_le hmany
      have hhigh' : joinHeight joined c ≤ heightLimit := Nat.le_trans (le_foldl_joinHeight rest _) hhigh
      exact ⟨hword, hmany', hhigh', (ih hmany' hhigh').mpr ⟨hwords, hmany, hhigh⟩⟩

theorem checkConditions_iff {conditions : List Condition} {offset : Nat} :
    checkConditions offset 0 0 conditions = .ok () ↔ Admitted conditions := by
  rw [checkConditions_eq_ok (Nat.zero_le _) (Nat.zero_le _), Nat.zero_add]
  exact ⟨fun ⟨words, parameters, height⟩ => ⟨words, parameters, height⟩,
    fun ⟨words, parameters, height⟩ => ⟨words, parameters, height⟩⟩

end Sql

namespace Table

variable {t : Table} {conditions : List Condition}

/-- Whether a row of the table passes a condition; a condition on what the table does not know passes no row. -/
def passes (t : Table) (c : Condition) (r : StoredRow) : Bool :=
  match t.operand? c.column with
  | some o => c.test.holds o.affinity (o.value r)
  | none => false

/-- Conditions that a statement may have and whose columns the table knows. -/
structure Answers (t : Table) (conditions : List Condition) : Prop where
  admitted : Sql.Admitted conditions
  known : ∀ c ∈ conditions, (t.operand? c.column).isSome

theorem lookUp_some {name : String} {offset : Nat} {o : Operand} (h : t.operand? name = some o) :
    t.lookUp name offset = .ok o := by
  rw [lookUp, h]

theorem lookUp_none {name : String} {offset : Nat} (h : t.operand? name = none) :
    t.lookUp name offset = .error (.noSuchColumn name offset) := by
  rw [lookUp, h]

/-- Conditions whose columns the table knows are bound, and all of them hold of a row that passes each of them. -/
theorem bindConditions_known (h : ∀ c ∈ conditions, (t.operand? c.column).isSome) (offset : Nat) :
    ∃ bound, t.bindConditions offset conditions = .ok bound ∧
      ∀ r, allHold bound r = conditions.all fun c => t.passes c r := by
  induction conditions generalizing offset with
  | nil => exact ⟨[], rfl, fun _ => rfl⟩
  | cons c rest ih =>
    obtain ⟨o, ho⟩ := Option.isSome_iff_exists.mp (h c List.mem_cons_self)
    obtain ⟨others, hothers, hall⟩ :=
      ih (fun c' hc' => h c' (List.mem_cons_of_mem c hc')) (offset + c.sql.utf8ByteSize + 5)
    refine ⟨{ operand := o, test := c.test } :: others, ?_, fun r => ?_⟩
    · rw [bindConditions, lookUp_some ho, ok_bind, hothers, ok_bind]
      rfl
    · have hc : t.passes c r = BoundCondition.holds { operand := o, test := c.test } r := by
        rw [passes, ho]
        rfl
      rw [List.all_cons, ← hall r, hc]
      rfl

theorem bindConditions_unknown (h : ¬ ∀ c ∈ conditions, (t.operand? c.column).isSome) (offset : Nat) :
    ∃ f, t.bindConditions offset conditions = .error f := by
  induction conditions generalizing offset with
  | nil => exact absurd (by simp) h
  | cons c rest ih =>
    rw [bindConditions]
    cases ho : t.operand? c.column with
    | none => exact ⟨_, by rw [lookUp_none ho, error_bind]⟩
    | some o =>
      have hrest : ¬ ∀ c' ∈ rest, (t.operand? c'.column).isSome := fun hrest =>
        h (List.forall_mem_cons.mpr ⟨by rw [ho]; rfl, hrest⟩)
      obtain ⟨f, hf⟩ := ih hrest (offset + c.sql.utf8ByteSize + 5)
      exact ⟨f, by rw [lookUp_some ho, ok_bind, hf, error_bind]⟩

/-- What becomes of the conditions of a statement: the table answers them, and then all of them hold of a row that
passes each, or the statement fails. -/
theorem clause_cases (t : Table) {s : Statement} {clause : Clause} (hs : s.clause? = some clause) :
    (t.Answers clause.conditions ∧ ∃ bound, s.checkClause = .ok () ∧ t.bindClause s true = .ok bound ∧
      ∀ r, allHold bound r = clause.conditions.all fun c => t.passes c r) ∨
    (¬ t.Answers clause.conditions ∧ ∃ f : Fault, ∀ (α : Type) (next : List BoundCondition → Except Fault α),
      (do s.checkClause; next (← t.bindClause s true)) = .error f) := by
  have hcheck : s.checkClause = Sql.checkConditions s.conditionsOffset 0 0 clause.conditions := by
    rw [Statement.checkClause, hs]
  have hbind : t.bindClause s true = t.bindConditions s.conditionsOffset clause.conditions := by
    rw [bindClause, hs]
    rfl
  rw [hbind, hcheck]
  by_cases hadmitted : Sql.Admitted clause.conditions
  · rw [Sql.checkConditions_iff.mpr hadmitted]
    by_cases hknown : ∀ c ∈ clause.conditions, (t.operand? c.column).isSome
    · obtain ⟨bound, hbound, hall⟩ := bindConditions_known hknown s.conditionsOffset
      exact Or.inl ⟨⟨hadmitted, hknown⟩, bound, rfl, hbound, hall⟩
    · obtain ⟨f, hf⟩ := bindConditions_unknown hknown s.conditionsOffset
      exact Or.inr ⟨fun h => hknown h.known, f, fun _ _ => by rw [ok_bind, hf, error_bind]⟩
  · cases hfault : Sql.checkConditions s.conditionsOffset 0 0 clause.conditions with
    | ok _ => exact absurd (Sql.checkConditions_iff.mp hfault) hadmitted
    | error f => exact Or.inr ⟨fun h => hadmitted h.admitted, f, fun _ _ => rfl⟩

/-- Conditions are answered together only if each of them is on its own. -/
theorem Answers.single (h : t.Answers conditions) {c : Condition} (hc : c ∈ conditions) : t.Answers [c] where
  admitted := {
    words := by simpa using h.admitted.words c hc
    parameters := by
      have hle : Sql.parameterCount [c] ≤ Sql.parameterCount conditions := by
        obtain ⟨pre, post, rfl⟩ := List.append_of_mem hc
        rw [Sql.parameterCount_append, Sql.parameterCount_singleton, Sql.parameterCount_cons c post]
        omega
      exact Nat.le_trans hle h.admitted.parameters
    height := Sql.height_le c }
  known := by simpa using h.known c hc

/-- Whether a row of the table passes all filters. -/
def passesAll (t : Table) (filters : List Filter) (r : StoredRow) : Bool :=
  filters.all fun f => t.passes (Clause.condition f) r

end Table

namespace Database

variable {t : Table} {filters : List Filter}

theorem compileFilters_columns (hne : filters ≠ []) (hcolumns : ∀ f ∈ filters, Clause.IsColumn f.column.toList) :
    ∃ clause, compileFilters filters = .ok (some clause) ∧ clause.conditions = filters.map Clause.condition := by
  obtain ⟨f, fs, rfl⟩ := List.exists_cons_of_ne_nil hne
  refine ⟨{ first := Clause.condition f, others := fs.map Clause.condition }, ?_, rfl⟩
  rw [compileFilters, Clause.compile_cons hcolumns, mapError_ok]

/-- Filters that can be answered are compiled to one clause, and a statement with this clause asks of the rows that they
pass all filters. -/
theorem clause_answered (hne : filters ≠ []) (hcolumns : ∀ f ∈ filters, Clause.IsColumn f.column.toList)
    (ha : t.Answers (filters.map Clause.condition)) :
    ∃ clause, compileFilters filters = .ok (some clause) ∧
      ∀ statement : Statement, statement.clause? = some clause →
        ∃ bound, statement.checkClause = .ok () ∧ t.bindClause statement true = .ok bound ∧
          allHold bound = t.passesAll filters := by
  obtain ⟨clause, hclause, hconditions⟩ := compileFilters_columns hne hcolumns
  refine ⟨clause, hclause, fun statement hstatement => ?_⟩
  rcases Table.clause_cases t hstatement with ⟨_, bound, hcheck, hbind, hall⟩ | ⟨hno, _⟩
  · refine ⟨bound, hcheck, hbind, funext fun r => ?_⟩
    rw [hall r, hconditions, List.all_map]
    rfl
  · exact absurd (hconditions ▸ ha) hno

end Database

end Herbarium
