import Herbarium.Proofs.Clause.Columns
import Herbarium.Proofs.Filter.Parsing
import Herbarium.Proofs.Text.Trim

/-!
Statements of comparisons.

A column, the symbol of a comparison and a value, written one after the other, are read as these three, whatever the
value is: no token starts in a column, so the first one is the symbol, and what follows it is the value
(`parse_comparison`). Blanks around the value are not part of it.
-/

namespace Herbarium

/-- The operator of a filter that asks for a comparison. -/
def Comparison.operator : Comparison → Operator
  | equal => .equal
  | notEqual => .notEqual
  | lessThan => .lessThan
  | greaterThan => .greaterThan

namespace Filter

theorem isBlank_of_name {c : Char} (h : c.isAlphanum = true ∨ c = '_') : Text.isBlank c = false := by
  -- digits, letters and the underscore are in a range of ASCII that has no blank
  have hrange : 48 ≤ c.toNat ∧ c.toNat ≤ 122 := by
    have hpart : Clause.isNamePart c = true := (Clause.isNamePart_iff c).mpr h
    simp only [Clause.isNamePart, Clause.isNameStart, Text.isLetter, Text.isDigit, Bool.or_eq_true,
      Bool.and_eq_true, decide_eq_true_eq, beq_iff_eq, Char.le_def, UInt32.le_iff_toNat_le, Char.reduceVal,
      UInt32.reduceToNat] at hpart
    show 48 ≤ c.val.toNat ∧ c.val.toNat ≤ 122
    rcases hpart with (hletter | rfl) | hdigit
    · omega
    · decide
    · omega
  simp only [Text.isBlank, Bool.or_eq_false_iff, Bool.and_eq_false_iff, decide_eq_false_iff_not, beq_eq_false_iff_ne]
  omega

theorem not_startsToken_of_name {c : Char} (h : c.isAlphanum = true ∨ c = '_') (t : List Char) :
    ¬ StartsToken (c :: t) := by
  rintro ⟨op, token, after, htoken, heq⟩
  cases htoken with
  | equal =>
    obtain rfl : c = '=' := (List.cons.inj heq).1
    exact absurd h (by decide)
  | notEqual =>
    obtain rfl : c = '!' := (List.cons.inj heq).1
    exact absurd h (by decide)
  | lessThan =>
    obtain rfl : c = '<' := (List.cons.inj heq).1
    exact absurd h (by decide)
  | greaterThan =>
    obtain rfl : c = '>' := (List.cons.inj heq).1
    exact absurd h (by decide)
  | isIn hb =>
    have hblank := isBlank_of_name h
    rw [(List.cons.inj heq).1, hb] at hblank
    cases hblank

/-- The first token behind a column is the first one of what follows it. -/
theorem FirstToken.behind_name {before front t after : List Char} {op : Operator} (h : FirstToken t front op after)
    (hname : ∀ c ∈ before, c.isAlphanum = true ∨ c = '_') : FirstToken (before ++ t) (before ++ front) op after := by
  apply h.append_left
  rintro earlier c rest rfl
  exact not_startsToken_of_name (hname c (by simp)) _

theorem isToken_symbol (op : Comparison) : IsToken op.operator op.symbol.toList := by
  cases op with
  | equal => exact .equal
  | notEqual => exact .notEqual
  | lessThan => exact .lessThan
  | greaterThan => exact .greaterThan

theorem symbol_eq (op : Comparison) : ∃ front d, op.symbol.toList = front ++ [d] ∧ Text.isBlank d = false := by
  cases op with
  | equal => exact ⟨[], '=', rfl, rfl⟩
  | notEqual => exact ⟨['!'], '=', rfl, rfl⟩
  | lessThan => exact ⟨[], '<', rfl, rfl⟩
  | greaterThan => exact ⟨[], '>', rfl, rfl⟩

theorem trimChars_comparison {column : List Char} (hcolumn : Clause.IsColumn column) (op : Comparison)
    (value : List Char) :
    Text.trimChars (column ++ (op.symbol.toList ++ value)) =
      column ++ (op.symbol.toList ++ Text.trimEndMatches Text.isBlank value) := by
  have hname := hcolumn.chars
  obtain ⟨front, d, hsymbol, hd⟩ := symbol_eq op
  obtain ⟨c, cs, rfl⟩ := List.exists_cons_of_ne_nil hcolumn.ne_nil
  -- the column keeps the blanks off from the left, the symbol from the right
  have hc : Text.isBlank c = false := isBlank_of_name (hname c List.mem_cons_self)
  have hend := Text.trimEndMatches_append hd (c :: cs ++ front) value
  rw [Text.trimChars, Text.trimMatches, List.cons_append, List.dropWhile_cons_of_neg (ne_true_of_eq_false hc), hsymbol]
  simpa using hend

/-- A written comparison is read as what it is written from, its value without the blanks around it. -/
theorem parse_comparison {column value : String} (hcolumn : Clause.IsColumn column.toList) (op : Comparison)
    (hvalue : Text.trim value ≠ "") :
    parse (column ++ op.symbol ++ value) = .ok { column, operator := op.operator, value := Text.trim value } := by
  have hchars : Text.trimChars (column ++ op.symbol ++ value).toList =
      column.toList ++ (op.symbol.toList ++ Text.trimEndMatches Text.isBlank value.toList) := by
    rw [String.toList_append, String.toList_append, List.append_assoc, trimChars_comparison hcolumn]
  have hfirst : FirstToken (Text.trimChars (column ++ op.symbol ++ value).toList) column.toList op.operator
      (Text.trimEndMatches Text.isBlank value.toList) := by
    have hhere : FirstToken (op.symbol.toList ++ Text.trimEndMatches Text.isBlank value.toList) [] op.operator
        (Text.trimEndMatches Text.isBlank value.toList) := FirstToken.here (isToken_symbol op)
    have hbehind := hhere.behind_name hcolumn.chars
    rwa [List.append_nil, ← hchars] at hbehind
  have hbefore : Text.trimChars column.toList = column.toList :=
    Text.trimMatches_eq_self fun c hc => isBlank_of_name (hcolumn.chars c hc)
  have hafter : Text.trimChars (Text.trimEndMatches Text.isBlank value.toList) = Text.trimChars value.toList :=
    Text.trimMatches_trimEndMatches value.toList
  have hne : Text.trimChars value.toList ≠ [] := fun hnil => hvalue (congrArg String.ofList hnil)
  rw [parse_first hfirst, hbefore, hafter, if_neg hcolumn.ne_nil, if_neg hne, String.ofList_toList]
  rfl

end Filter

end Herbarium
