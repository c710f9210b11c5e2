import Herbarium.Proofs.Clause.Columns
import Herbarium.Proofs.Text.Joined

/-!
Placeholders of compiled filters.

The text of a clause is made of statements, one for each filter, and a statement shows nothing of the filter's value
but the number of its commas (`Filter.statement`). So filters that agree in the rest have the same text or the same
fault (`compile_agree`). Every placeholder stands in the statement of a filter, and as many placeholders come before it
as there are parameters before the one it stands for (`exists_placeholder`).
-/

namespace Herbarium

open Outcome

namespace Filter

/-- The texts of the values a filter compares with: the pieces of a value list, or the value. -/
def operandTexts (f : Filter) : List String :=
  match f.operator with
  | .isIn => Clause.pieces f.value
  | .equal | .notEqual | .lessThan | .greaterThan => [f.value]

/-- The statement of a filter in the text of a clause. -/
def statement (f : Filter) : String :=
  match f.operator with
  | .isIn =>
    f.column ++ " IN (" ++ String.intercalate "," (List.replicate (f.value.toList.count ',' + 1) "?") ++ ")"
  | .equal | .notEqual | .lessThan | .greaterThan => f.column ++ " " ++ f.operator.symbol ++ " ?"

/-- Whether two filters differ in nothing but the value; value lists are to have as many commas. -/
structure Agree (f g : Filter) : Prop where
  column : f.column = g.column
  operator : f.operator = g.operator
  commas : f.operator = .isIn → f.value.toList.count ',' = g.value.toList.count ','

theorem Agree.statement_eq {f g : Filter} (h : f.Agree g) : f.statement = g.statement := by
  obtain ⟨column, op, value⟩ := f
  obtain ⟨_, _, value'⟩ := g
  obtain ⟨rfl, rfl, hcommas⟩ := h
  cases op with
  | isIn => simp only [statement, hcommas rfl]
  | equal | notEqual | lessThan | greaterThan => rfl

theorem length_pieces (value : String) : (Clause.pieces value).length = value.toList.count ',' + 1 := by
  rw [Clause.pieces, List.length_map, Clause.splitCommas, Text.length_splitOn]

/-! ## The text of a statement -/

/-- Placeholders with commas between them. -/
def marks (n : Nat) : List Char := [','].intercalate (List.replicate n ['?'])

theorem marks_succ_succ (n : Nat) : marks (n + 2) = '?' :: ',' :: marks (n + 1) := by
  rw [marks, List.replicate_succ, List.replicate_succ, List.intercalate_cons_cons]
  rfl

theorem count_marks : ∀ n, (marks n).count '?' = n
  | 0 => rfl
  | 1 => rfl
  | n + 2 => by
    rw [marks_succ_succ, List.count_cons_self, List.count_cons_of_ne (by decide), count_marks (n + 1)]

theorem mem_marks : ∀ {n : Nat} {c : Char}, c ∈ marks n → c = '?' ∨ c = ','
  | 1, c, h => Or.inl (List.mem_singleton.mp h)
  | n + 2, c, h => by
    rw [marks_succ_succ, List.mem_cons, List.mem_cons] at h
    rcases h with rfl | rfl | h
    · exact Or.inl rfl
    · exact Or.inr rfl
    · exact mem_marks h

theorem toList_statement_isIn {f : Filter} (h : f.operator = .isIn) :
    f.statement.toList = f.column.toList ++ " IN (".toList ++ marks (f.value.toList.count ',' + 1) ++ ")".toList := by
  simp only [statement, h, marks, String.toList_append, String.toList_intercalate, List.map_replicate]
  rfl

theorem toList_statement_compare {f : Filter} (h : f.operator ≠ .isIn) :
    f.statement.toList = f.column.toList ++ " ".toList ++ f.operator.symbol.toList ++ " ?".toList := by
  have hstatement : f.statement = f.column ++ " " ++ f.operator.symbol ++ " ?" := by
    cases hop : f.operator with
    | isIn => exact absurd hop h
    | equal | notEqual | lessThan | greaterThan => simp only [statement, hop]
  simp only [hstatement, String.toList_append]

/-- A column has no placeholder in it. -/
theorem count_column {f : Filter} (h : Clause.IsColumn f.column.toList) : f.column.toList.count '?' = 0 := by
  refine List.count_eq_zero.mpr fun hmem => ?_
  rcases h.chars _ hmem with h | h <;> exact absurd h (by decide)

/-- A statement has a placeholder for each value. -/
theorem count_statement {f : Filter} (h : Clause.IsColumn f.column.toList) :
    f.statement.toList.count '?' = f.operandTexts.length := by
  by_cases hop : f.operator = .isIn
  · have htexts : f.operandTexts = Clause.pieces f.value := by simp only [operandTexts, hop]
    have hopen : " IN (".toList.count '?' = 0 := by decide
    have hclose : ")".toList.count '?' = 0 := by decide
    rw [toList_statement_isIn hop, htexts, length_pieces]
    simp only [List.count_append, count_column h, hopen, hclose, count_marks, Nat.zero_add, Nat.add_zero]
  · have htexts : f.operandTexts = [f.value] := by
      cases hop' : f.operator with
      | isIn => exact absurd hop' hop
      | equal | notEqual | lessThan | greaterThan => simp only [operandTexts, hop']
    have hsymbol : ∀ op : Operator, op.symbol.toList.count '?' = 0 := by
      intro op
      cases op <;> decide
    have hblank : " ".toList.count '?' = 0 := by decide
    have hmark : " ?".toList.count '?' = 1 := by decide
    rw [toList_statement_compare hop, htexts]
    simp only [List.count_append, count_column h, hsymbol, hblank, hmark, List.length_singleton, Nat.zero_add]

end Filter

namespace Clause

/-- The characters of the text of a clause. -/
def IsTextChar (c : Char) : Prop := c.isAlphanum = true ∨ c = '_' ∨ c ∈ " ?,()=!<>".toList

instance (c : Char) : Decidable (IsTextChar c) :=
  inferInstanceAs (Decidable (c.isAlphanum = true ∨ c = '_' ∨ c ∈ " ?,()=!<>".toList))

theorem isTextChar_of_all {s : String} (h : s.toList.all (fun c => decide (IsTextChar c)) = true) :
    ∀ c ∈ s.toList, IsTextChar c :=
  fun c hc => of_decide_eq_true (List.all_eq_true.mp h c hc)

theorem isTextChar_symbol (op : Operator) : ∀ c ∈ op.symbol.toList, IsTextChar c := by
  cases op <;> exact isTextChar_of_all (by decide)

theorem isTextChar_statement {f : Filter} (h : IsColumn f.column.toList) :
    ∀ c ∈ f.statement.toList, IsTextChar c := by
  intro c hc
  have hcolumn : c ∈ f.column.toList → IsTextChar c := fun hc => (h.chars c hc).imp_right Or.inl
  by_cases hop : f.operator = .isIn
  · have hopen : ∀ c ∈ " IN (".toList, IsTextChar c := isTextChar_of_all (by decide)
    have hclose : ∀ c ∈ ")".toList, IsTextChar c := isTextChar_of_all (by decide)
    rw [Filter.toList_statement_isIn hop] at hc
    simp only [List.mem_append] at hc
    rcases hc with ((hc | hc) | hc) | hc
    · exact hcolumn hc
    · exact hopen c hc
    · rcases Filter.mem_marks hc with rfl | rfl <;> decide
    · exact hclose c hc
  · have hblank : ∀ c ∈ " ".toList, IsTextChar c := isTextChar_of_all (by decide)
    have hmark : ∀ c ∈ " ?".toList, IsTextChar c := isTextChar_of_all (by decide)
    rw [Filter.toList_statement_compare hop] at hc
    simp only [List.mem_append] at hc
    rcases hc with ((hc | hc) | hc) | hc
    · exact hcolumn hc
    · exact hblank c hc
    · exact isTextChar_symbol _ c hc
    · exact hmark c hc

/-! ## One condition -/

/-- The text of a condition is the statement of its filter. -/
theorem sql_condition (f : Filter) : (condition f).sql = f.statement := by
  cases hop : f.operator with
  | isIn =>
    have hmarks : ((pieces f.value).map Value.coerce).map (fun _ => "?") =
        List.replicate (f.value.toList.count ',' + 1) "?" := by
      rw [List.map_const', List.length_map, Filter.length_pieces]
    simp only [condition, testOf, Condition.sql, Filter.statement, hop, hmarks]
  | equal | notEqual | lessThan | greaterThan =>
    simp only [condition, testOf, Condition.sql, Filter.statement, hop]
    rfl

/-- The values of a condition are those of the texts of its filter. -/
theorem operands_condition (f : Filter) : (condition f).test.operands = f.operandTexts.map Value.coerce := by
  cases hop : f.operator with
  | isIn | equal | notEqual | lessThan | greaterThan =>
    simp only [condition, testOf, Test.operands, Filter.operandTexts, hop, List.map_cons, List.map_nil]

/-! ## Whole clauses -/

section

variable {fs : List Filter} {clause : Clause}

/-- The text of a clause are the statements of its filters. -/
theorem sql_compile (h : compile fs = .ok (some clause)) :
    clause.sql = "WHERE " ++ String.intercalate " AND " (fs.map Filter.statement) := by
  obtain ⟨_, _, hconditions⟩ := compile_eq_some_iff.mp h
  have hstatements : (fs.map condition).map Condition.sql = fs.map Filter.statement := by
    rw [List.map_map]
    exact List.map_congr_left fun f _ => sql_condition f
  rw [sql, hconditions, hstatements]

/-- The parameters of a clause are the values of its filters. -/
theorem params_compile (h : compile fs = .ok (some clause)) :
    clause.params = fs.flatMap fun f => f.operandTexts.map Value.coerce := by
  obtain ⟨_, _, hconditions⟩ := compile_eq_some_iff.mp h
  rw [params, hconditions, List.flatMap_map]
  simp only [operands_condition]

/-- The text of a clause from the statement of one of its filters. -/
theorem toList_sql (pre post : List Filter) (f : Filter)
    (h : compile (pre ++ f :: post) = .ok (some clause)) :
    clause.sql.toList =
      "WHERE ".toList ++ pre.flatMap (fun g => g.statement.toList ++ " AND ".toList) ++ f.statement.toList ++
        post.flatMap fun g => " AND ".toList ++ g.statement.toList := by
  rw [sql_compile h, String.toList_append, String.toList_intercalate, List.map_map, List.map_append, List.map_cons,
    Text.intercalate_append_cons, List.flatMap_map, List.flatMap_map]
  simp only [List.append_assoc, Function.comp]

theorem isTextChar_sql (h : compile fs = .ok (some clause)) : ∀ c ∈ clause.sql.toList, IsTextChar c := by
  obtain ⟨hcolumns, hne, _⟩ := compile_eq_some_iff.mp h
  obtain ⟨f, post, rfl⟩ := List.exists_cons_of_ne_nil hne
  have hwhere : ∀ c ∈ "WHERE ".toList, IsTextChar c := isTextChar_of_all (by decide)
  have hand : ∀ c ∈ " AND ".toList, IsTextChar c := isTextChar_of_all (by decide)
  intro c hc
  rw [toList_sql [] post f h] at hc
  simp only [List.flatMap_nil, List.append_nil, List.mem_append, List.mem_flatMap] at hc
  rcases hc with (hc | hc) | ⟨g, hg, hc | hc⟩
  · exact hwhere c hc
  · exact isTextChar_statement (hcolumns f List.mem_cons_self) c hc
  · exact hand c hc
  · exact isTextChar_statement (hcolumns g (List.mem_cons_of_mem f hg)) c hc

/-- Statements have as many placeholders as values, however they are joined. -/
theorem count_statements {fs : List Filter} (h : ∀ f ∈ fs, IsColumn f.column.toList) {joined : Filter → List Char}
    (hjoined : ∀ f, (joined f).count '?' = f.statement.toList.count '?') :
    (fs.flatMap joined).count '?' = (fs.flatMap fun f => f.operandTexts.map Value.coerce).length := by
  rw [List.count_flatMap, List.length_flatMap]
  congr 1
  refine List.map_congr_left fun f hf => ?_
  rw [Function.comp, hjoined, Filter.count_statement (h f hf), List.length_map]

theorem count_after (g : Filter) :
    (g.statement.toList ++ " AND ".toList).count '?' = g.statement.toList.count '?' := by
  have hand : " AND ".toList.count '?' = 0 := by decide
  rw [List.count_append, hand, Nat.add_zero]

theorem count_before (g : Filter) :
    (" AND ".toList ++ g.statement.toList).count '?' = g.statement.toList.count '?' := by
  have hand : " AND ".toList.count '?' = 0 := by decide
  rw [List.count_append, hand, Nat.zero_add]

theorem count_where : "WHERE ".toList.count '?' = 0 := by decide

/-- A clause has a placeholder for each parameter. -/
theorem count_sql (h : compile fs = .ok (some clause)) : clause.sql.toList.count '?' = clause.params.length := by
  obtain ⟨hcolumns, hne, _⟩ := compile_eq_some_iff.mp h
  obtain ⟨f, post, rfl⟩ := List.exists_cons_of_ne_nil hne
  have hpost := count_statements (fun g hg => hcolumns g (List.mem_cons_of_mem f hg)) count_before
  rw [toList_sql [] post f h, params_compile h, List.flatMap_cons, List.length_append, List.length_map]
  simp only [List.flatMap_nil, List.append_nil, List.count_append, count_where, hpost, Nat.zero_add,
    Filter.count_statement (hcolumns f List.mem_cons_self)]

/-- The placeholder of a parameter: it stands in the statement of the filter that the parameter comes from, at the place
of the text that the parameter is the value of, and as many placeholders come before it as parameters do. -/
theorem exists_placeholder (h : compile fs = .ok (some clause)) {k : Nat} (hk : k < clause.params.length) :
    ∃ pre f post j text left right, fs = pre ++ f :: post ∧
      f.operandTexts[j]? = some text ∧ clause.params[k]? = some (.coerce text) ∧
      f.statement.toList = left ++ '?' :: right ∧ left.count '?' = j ∧
      clause.sql.toList =
        ("WHERE ".toList ++ pre.flatMap (fun g => g.statement.toList ++ " AND ".toList) ++ left) ++
          '?' :: (right ++ post.flatMap fun g => " AND ".toList ++ g.statement.toList) ∧
      ("WHERE ".toList ++ pre.flatMap (fun g => g.statement.toList ++ " AND ".toList) ++ left).count '?' = k := by
  obtain ⟨hcolumns, _, _⟩ := compile_eq_some_iff.mp h
  rw [params_compile h] at hk ⊢
  obtain ⟨pre, f, post, j, rfl, hkj, hj, hget⟩ := Text.exists_member hk
  rw [List.length_map] at hj
  have hpre : ∀ g ∈ pre, IsColumn g.column.toList := fun g hg => hcolumns g (List.mem_append_left _ hg)
  have hf : IsColumn f.column.toList := hcolumns f (List.mem_append_right pre List.mem_cons_self)
  -- the statement has a placeholder for each text, so it has one of this number
  obtain ⟨left, right, hstatement, hleft⟩ :=
    Text.exists_occurrence (a := '?') (Nat.lt_of_lt_of_eq hj (Filter.count_statement hf).symm)
  refine ⟨pre, f, post, j, f.operandTexts[j], left, right, rfl, List.getElem?_eq_getElem hj, ?_, hstatement, hleft,
    ?_, ?_⟩
  · rw [hget, List.getElem?_map, List.getElem?_eq_getElem hj, Option.map_some]
  · rw [toList_sql pre post f h, hstatement]
    simp only [List.append_assoc, List.cons_append]
  · rw [List.count_append, List.count_append, count_where, count_statements hpre count_after, hleft, hkj,
      Nat.zero_add]

end

/-! ## Two lists of filters -/

section

variable {fs gs : List Filter}

/-- Filters on the same columns are refused for the same one. -/
theorem compile_error_of_columns (hcolumns : fs.map Filter.column = gs.map Filter.column) {fault : Fault}
    (h : compile fs = .error fault) : compile gs = .error fault := by
  obtain ⟨pre, f, post, rfl, hpre, hf, rfl⟩ := compile_eq_error_iff.mp h
  -- the other list is cut where the first one is
  rw [List.map_append, List.map_cons] at hcolumns
  obtain ⟨pre', rest, rfl, hpre', hrest⟩ := List.map_eq_append_iff.mp hcolumns.symm
  obtain ⟨g, post', rfl, hg, _⟩ := List.map_eq_cons_iff.mp hrest
  refine compile_eq_error_iff.mpr ⟨pre', g, post', rfl, ?_, hg ▸ hf, by rw [hg]⟩
  intro g' hg'
  have hmem : g'.column ∈ pre.map Filter.column := hpre' ▸ List.mem_map_of_mem hg'
  obtain ⟨f', hf', hcolumn⟩ := List.mem_map.mp hmem
  exact hcolumn ▸ hpre f' hf'

/-- Filters that agree but for their values are refused with one fault or have one text. -/
theorem compile_agree (hne : fs ≠ []) (hlength : fs.length = gs.length)
    (hagree : ∀ (i : Nat) (hf : i < fs.length) (hg : i < gs.length), fs[i].Agree gs[i]) :
    (∃ fault, compile fs = .error fault ∧ compile gs = .error fault) ∨
      ∃ c d, compile fs = .ok (some c) ∧ compile gs = .ok (some d) ∧ c.sql = d.sql := by
  have hcolumns : fs.map Filter.column = gs.map Filter.column := by
    refine List.ext_getElem (by simpa using hlength) fun i hf hg => ?_
    rw [List.length_map] at hf hg
    rw [List.getElem_map, List.getElem_map, (hagree i hf hg).column]
  have hstatements : fs.map Filter.statement = gs.map Filter.statement := by
    refine List.ext_getElem (by simpa using hlength) fun i hf hg => ?_
    rw [List.length_map] at hf hg
    rw [List.getElem_map, List.getElem_map, (hagree i hf hg).statement_eq]
  have hne' : gs ≠ [] := by
    rintro rfl
    exact hne (List.length_eq_zero_iff.mp hlength)
  cases hfs : compile fs with
  | error fault => exact Or.inl ⟨fault, rfl, compile_error_of_columns hcolumns hfs⟩
  | ok compiled =>
    cases hgs : compile gs with
    | error fault =>
      rw [compile_error_of_columns hcolumns.symm hgs] at hfs
      cases hfs
    | ok compiled' =>
      obtain ⟨c, rfl⟩ := compile_ok_some hne hfs
      obtain ⟨d, rfl⟩ := compile_ok_some hne' hgs
      exact Or.inr ⟨c, d, rfl, rfl, by rw [sql_compile hfs, sql_compile hgs, hstatements]⟩

end

/-- Values never reach the text of a clause. Filters that agree but for their values are refused with one fault or have
one text. The text consists of the statements of the filters, of harmless characters only; it has a placeholder for
each parameter, in the statement of the filter and at the place of the text that the parameter comes from. Filters are
refused exactly for their first column that is neither a name nor a number. -/
theorem compile_hides_values :
    (∀ fs gs : List Filter, fs ≠ [] → fs.length = gs.length →
      (∀ (i : Nat) (hf : i < fs.length) (hg : i < gs.length), fs[i].Agree gs[i]) →
      (∃ fault, compile fs = .error fault ∧ compile gs = .error fault) ∨
        ∃ c d, compile fs = .ok (some c) ∧ compile gs = .ok (some d) ∧ c.sql = d.sql) ∧
    (∀ fs clause, compile fs = .ok (some clause) →
      clause.sql = "WHERE " ++ String.intercalate " AND " (fs.map Filter.statement) ∧
      (∀ c ∈ clause.sql.toList, c.isAlphanum = true ∨ c = '_' ∨ c ∈ " ?,()=!<>".toList) ∧
      clause.sql.toList.count '?' = clause.params.length ∧
      ∀ k < clause.params.length, ∃ pre f post j text left right, fs = pre ++ f :: post ∧
        f.operandTexts[j]? = some text ∧ clause.params[k]? = some (.coerce text) ∧
        f.statement.toList = left ++ '?' :: right ∧ left.count '?' = j ∧
        clause.sql.toList =
          ("WHERE ".toList ++ pre.flatMap (fun g => g.statement.toList ++ " AND ".toList) ++ left) ++
            '?' :: (right ++ post.flatMap fun g => " AND ".toList ++ g.statement.toList) ∧
        ("WHERE ".toList ++ pre.flatMap (fun g => g.statement.toList ++ " AND ".toList) ++ left).count '?' = k) ∧
    (∀ fs fault, compile fs = .error fault ↔
      ∃ pre f post, fs = pre ++ f :: post ∧ (∀ g ∈ pre, IsColumn g.column.toList) ∧
        ¬ IsColumn f.column.toList ∧ fault = .invalidColumn f.column) := by
  refine ⟨fun fs gs hne hlength hagree => compile_agree hne hlength hagree, ?_, fun fs fault => compile_eq_error_iff⟩
  intro fs clause h
  exact ⟨sql_compile h, isTextChar_sql h, count_sql h, fun k hk => exists_placeholder h hk⟩

/-- A value list that tries to leave the statement has the text of a harmless one. -/
theorem compile_hides_values_species :
    ∃ c d, compile [{ column := "species", operator := .isIn, value := "(virginica,setosa)" }] = .ok (some c) ∧
      compile [{ column := "species", operator := .isIn, value := "x); DROP TABLE iris; --,?" }] = .ok (some d) ∧
      c.sql = d.sql ∧ d.sql.toList.count '?' = d.params.length := by
  let f : Filter := { column := "species", operator := .isIn, value := "(virginica,setosa)" }
  let g : Filter := { column := "species", operator := .isIn, value := "x); DROP TABLE iris; --,?" }
  have hcommas : f.value.toList.count ',' = g.value.toList.count ',' := by decide
  have hagree : ∀ (i : Nat) (hf : i < [f].length) (hg : i < [g].length), [f][i].Agree [g][i] := by
    intro i hf hg
    obtain rfl : i = 0 := Nat.lt_one_iff.mp hf
    exact ⟨rfl, rfl, fun _ => hcommas⟩
  obtain ⟨htwo, hone, _⟩ := compile_hides_values
  rcases htwo [f] [g] (List.cons_ne_nil f []) rfl hagree with ⟨fault, hfault, _⟩ | ⟨c, d, hc, hd, hsql⟩
  · have hspecies : admits f.column = true := by decide
    rw [compile_cons (List.forall_mem_singleton.mpr (admits_iff.mp hspecies))] at hfault
    cases hfault
  · exact ⟨c, d, hc, hd, hsql, (hone [g] d hd).2.2.1⟩

end Clause

end Herbarium
