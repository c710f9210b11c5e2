import Herbarium.Proofs.Filter.Comparisons

/-!
Filters written and read again.

A filter that was read is written with blanks around its operator. The blank behind the column changes what follows the
column's last characters, so it could make a token of them; it does so only where they are the word `in` behind a blank
(`NoTokenWithin.blank`). A column like that comes from a statement such as `x in=5`. Every other filter is read back
from its written form, and in this one the word becomes the operator (`parse_printed`).
-/

namespace Herbarium.Filter

/-- Whether a column is another text and, behind a blank, the word `in` in any case. -/
def EndsInWord (front column : List Char) : Prop :=
  ∃ b i n, column = front ++ [b, i, n] ∧ Text.isBlank b = true ∧ (i = 'i' ∨ i = 'I') ∧ (n = 'n' ∨ n = 'N')

variable {column behind value front : List Char} {op : Operator} {f : Filter}

/-! ## Columns before a blank -/

/-- A blank behind a column makes no token of its last characters but of the word `in`. -/
theorem NoTokenWithin.blank (h : NoTokenWithin column behind) (hword : ∀ front, ¬ EndsInWord front column)
    (behind' : List Char) : NoTokenWithin column (' ' :: behind') := by
  intro earlier c rest heq hstarts
  rcases hstarts.within behind with hwithin | ⟨op, d, token, after, htoken, hd⟩
  · exact h earlier c rest heq hwithin
  obtain rfl : ' ' = d := (List.cons.inj hd).1
  obtain ⟨i, n, rfl, hb, hi, hn⟩ := htoken.of_blank (by decide)
  exact hword earlier ⟨c, i, n, heq, hb, hi, hn⟩

/-- What stands before the word `in` is too far from its end for a token to pass it. -/
theorem NoTokenWithin.word (h : NoTokenWithin column behind) (hword : EndsInWord front column)
    (behind' : List Char) : ∃ b i n, Text.isBlank b = true ∧ IsToken .isIn [b, i, n, ' '] ∧ column = front ++ [b, i, n] ∧
      NoTokenWithin front ([b, i, n, ' '] ++ behind') := by
  obtain ⟨b, i, n, rfl, hb, hi, hn⟩ := hword
  refine ⟨b, i, n, hb, .isIn hb hi hn (by decide), rfl, ?_⟩
  rintro earlier c rest rfl hstarts
  have hcolumn : earlier ++ c :: rest ++ [b, i, n] = earlier ++ c :: (rest ++ [b, i, n]) := by simp
  have htext : c :: rest ++ ([b, i, n, ' '] ++ behind') = (c :: (rest ++ [b, i, n])) ++ ' ' :: behind' := by simp
  rw [htext] at hstarts
  rcases hstarts.within behind with hwithin | ⟨op, d, token, after, htoken, -⟩
  · exact h earlier c _ hcolumn hwithin
  · have hlength := htoken.length_le
    simp at hlength
    omega

/-! ## Symbols -/

theorem isToken_symbol_of_ne (h : op ≠ .isIn) : IsToken op op.symbol.toList := by
  cases op with
  | equal => exact .equal
  | notEqual => exact .notEqual
  | lessThan => exact .lessThan
  | greaterThan => exact .greaterThan
  | isIn => exact absurd rfl h

theorem keeps_symbol (op : Operator) : Text.Keeps Text.isBlank op.symbol.toList where
  ne_nil := by cases op <;> decide
  first := by cases op <;> rintro c ⟨⟩ <;> rfl
  last := by cases op <;> rintro c ⟨⟩ <;> rfl

/-- The first token of a symbol between blanks. -/
theorem firstToken_symbol (op : Operator) (value : List Char) :
    ∃ blanks after, FirstToken (' ' :: (op.symbol.toList ++ ' ' :: value)) blanks op after ∧
      (∀ c ∈ blanks, Text.isBlank c = true) ∧ Text.trimChars after = Text.trimChars value := by
  by_cases hop : op = .isIn
  -- the word takes the blanks for its own
  · subst hop
    exact ⟨[], value, .here (.isIn (by decide) (Or.inr rfl) (Or.inr rfl) (by decide)), by simp, rfl⟩
  · have hhere : FirstToken (op.symbol.toList ++ ' ' :: value) [] op (' ' :: value) := .here (isToken_symbol_of_ne hop)
    refine ⟨[' '], ' ' :: value, hhere.there ?_, by simp [show Text.isBlank ' ' = true from rfl], rfl⟩
    cases op with
    | isIn => exact absurd rfl hop
    | _ => exact not_startsToken_blank (by decide) (by decide) _

/-! ## Filters that were read -/

/-- What is known of a filter that was read. -/
structure IsRead (f : Filter) : Prop where
  column : Text.Keeps Text.isBlank f.column.toList
  value : Text.Keeps Text.isBlank f.value.toList
  /-- No token started in the column where it was read. -/
  behind : ∃ behind, NoTokenWithin f.column.toList behind

theorem isRead_of_parse {statement : String} (h : parse statement = .ok f) : f.IsRead := by
  obtain ⟨before, op, after, hfirst, hbefore, hafter, rfl⟩ := parse_eq_ok_iff.mp h
  obtain ⟨token, htoken, htext⟩ := hfirst.token
  have hne : before ≠ [] := by
    rintro rfl
    exact hbefore rfl
  have hstatement : Text.trimChars statement.toList ≠ [] := by
    rw [htext]
    simp [hne]
  -- the statement starts with its column, so nothing was taken off the column's start
  have hhead : ∀ c ∈ before.head?, Text.isBlank c = false := by
    intro c hc
    apply (Text.keeps_trimMatches hstatement).first c
    rw [← Text.trimChars, htext, List.head?_append_of_ne_nil _ hne]
    exact hc
  obtain ⟨back, hback⟩ := Text.exists_trimMatches_append hhead
  refine ⟨?_, ?_, ?_⟩
  · rw [String.toList_ofList]
    exact Text.keeps_trimMatches hbefore
  · rw [String.toList_ofList]
    exact Text.keeps_trimMatches hafter
  · refine ⟨back ++ (token ++ after), ?_⟩
    rw [htext] at hfirst
    intro earlier c rest heq
    rw [String.toList_ofList, Text.trimChars] at heq
    rw [← List.append_assoc]
    apply hfirst.noTokenWithin earlier c (rest ++ back)
    rw [hback, heq, List.append_assoc, List.cons_append]

theorem toList_render (f : Filter) :
    f.render.toList = f.column.toList ++ ' ' :: (f.operator.symbol.toList ++ ' ' :: f.value.toList) := by
  simp [render]

theorem trimChars_render (hf : f.IsRead) : Text.trimChars f.render.toList = f.render.toList := by
  have hkeeps := hf.column.append hf.value (' ' :: (f.operator.symbol.toList ++ [' ']))
  have hrender : f.column.toList ++ (' ' :: (f.operator.symbol.toList ++ [' ']) ++ f.value.toList) = f.render.toList := by
    simp [toList_render]
  rw [hrender] at hkeeps
  exact hkeeps.trimMatches_self

/-- A filter that was read is read back from its written form unless its column ends in the word `in`. -/
theorem parse_render_self (hf : f.IsRead) (hword : ∀ front, ¬ EndsInWord front f.column.toList) :
    parse f.render = .ok f := by
  obtain ⟨behind, hbehind⟩ := hf.behind
  obtain ⟨blanks, after, hsymbol, hblanks, hafter⟩ := firstToken_symbol f.operator f.value.toList
  have hfirst : FirstToken (Text.trimChars f.render.toList) (f.column.toList ++ blanks) f.operator after := by
    rw [trimChars_render hf, toList_render]
    exact hsymbol.append_left (hbehind.blank hword _)
  have hcolumn : Text.trimChars (f.column.toList ++ blanks) = f.column.toList := hf.column.trimMatches_back hblanks
  have hvalue : Text.trimChars after = f.value.toList := hafter.trans hf.value.trimMatches_self
  rw [parse_first hfirst, hcolumn, hvalue, if_neg hf.column.ne_nil, if_neg hf.value.ne_nil,
    String.ofList_toList, String.ofList_toList]

/-- A column that ends in the word `in` is read up to the word, which becomes the operator. -/
theorem parse_render_word (hf : f.IsRead) {front : List Char} (hword : EndsInWord front f.column.toList) :
    parse f.render = .ok { column := String.ofList (Text.trimChars front), operator := .isIn,
                           value := f.operator.symbol ++ " " ++ f.value } := by
  obtain ⟨behind, hbehind⟩ := hf.behind
  obtain ⟨b, i, n, hb, htoken, hcolumn, hfront⟩ := hbehind.word hword (f.operator.symbol.toList ++ ' ' :: f.value.toList)
  have hfirst : FirstToken (Text.trimChars f.render.toList) front .isIn
      (f.operator.symbol.toList ++ ' ' :: f.value.toList) := by
    have htext : f.render.toList = front ++ ([b, i, n, ' '] ++ (f.operator.symbol.toList ++ ' ' :: f.value.toList)) := by
      simp [toList_render, hcolumn]
    have happend := (FirstToken.here htoken).append_left hfront
    rwa [List.append_nil, ← htext, ← trimChars_render hf] at happend
  -- a column starts with no blank, so there is something before the word
  have hne : Text.trimChars front ≠ [] := by
    have hhead := hf.column.first
    rw [hcolumn] at hhead
    cases front with
    | nil => exact absurd (hhead b rfl) (by simp [hb])
    | cons c front => exact List.ne_nil_of_mem (Text.mem_trimMatches (hhead c rfl) List.mem_cons_self)
  have hkeeps : Text.Keeps Text.isBlank (f.operator.symbol.toList ++ ' ' :: f.value.toList) :=
    (keeps_symbol f.operator).append hf.value [' ']
  have hvalue : Text.trimChars (f.operator.symbol.toList ++ ' ' :: f.value.toList) =
      (f.operator.symbol ++ " " ++ f.value).toList := by
    rw [Text.trimChars, hkeeps.trimMatches_self]
    simp
  rw [parse_first hfirst, if_neg hne, hvalue, if_neg (by simp), String.ofList_toList]

theorem not_endsInWord_of_isColumn (h : Clause.IsColumn column) (front : List Char) : ¬ EndsInWord front column := by
  rintro ⟨b, i, n, rfl, hb, _, _⟩
  have hblank := isBlank_of_name (h.chars b (by simp))
  rw [hb] at hblank
  cases hblank

/-! ## The written form -/

/-- The written form of a filter that was read is read again. It is read as the filter itself unless the filter's column
ends, behind a blank, in the word `in`: then the word is read as the operator, and all that follows it as the value. A
filter that is compiled, alone or among others, has no such column. -/
theorem parse_printed {statement : String} (h : parse statement = .ok f) :
    (∃ g, parse f.render = .ok g) ∧
    (parse f.render = .ok f ↔ ¬ ∃ front, EndsInWord front f.column.toList) ∧
    (∀ front, EndsInWord front f.column.toList →
      parse f.render = .ok { column := String.ofList (Text.trimChars front), operator := .isIn,
                             value := f.operator.symbol ++ " " ++ f.value }) ∧
    ∀ fs clause, f ∈ fs → Clause.compile fs = .ok clause → parse f.render = .ok f := by
  have hf := isRead_of_parse h
  by_cases hword : ∃ front, EndsInWord front f.column.toList
  · obtain ⟨front, hfront⟩ := hword
    have hread := parse_render_word hf hfront
    refine ⟨⟨_, hread⟩, ⟨fun hself => ?_, fun hno => absurd ⟨front, hfront⟩ hno⟩,
      fun _ => parse_render_word hf, fun fs clause hmem hcompile => ?_⟩
    -- the column that is read lacks the word
    · obtain ⟨b, i, n, hcolumn, _⟩ := hfront
      have hlength := Text.length_trimMatches_le (p := Text.isBlank) front
      rw [hread] at hself
      injection hself with hself
      have hsame : String.ofList (Text.trimChars front) = f.column := congrArg Filter.column hself
      rw [← hsame, String.toList_ofList] at hcolumn
      have hlengths := congrArg List.length hcolumn
      rw [Text.trimChars, List.length_append, List.length_cons] at hlengths
      omega
    · exact absurd hfront (not_endsInWord_of_isColumn (Clause.isColumn_of_compile hmem hcompile) front)
  · have hread := parse_render_self hf fun front hfront => hword ⟨front, hfront⟩
    exact ⟨⟨f, hread⟩, iff_of_true hread hword, fun front hfront => absurd ⟨front, hfront⟩ hword,
      fun _ _ _ _ => hread⟩

/-- The filter of the statement `x in=5`. -/
def wordy : Filter := { column := "x in", operator := .equal, value := "5" }

/-- The filter of the statement `species!==5`. -/
def simple : Filter := { column := "species", operator := .notEqual, value := "=5" }

theorem parse_printed_wordy :
    (parse "x in=5" = .ok wordy ∧ EndsInWord ['x'] wordy.column.toList ∧ parse "x in = 5" ≠ .ok wordy ∧
      parse "x in = 5" = .ok { column := "x", operator := .isIn, value := "= 5" }) ∧
    parse "species!==5" = .ok simple ∧ (Clause.compile [simple]).isOk = true ∧ parse "species != =5" = .ok simple := by
  have hwordy : parse "x in=5" = .ok wordy := rfl
  have hends : EndsInWord ['x'] wordy.column.toList := ⟨' ', 'i', 'n', rfl, by decide, Or.inl rfl, Or.inl rfl⟩
  obtain ⟨_, hself, hword, _⟩ := parse_printed hwordy
  have hsimple : parse "species!==5" = .ok simple := rfl
  obtain ⟨_, _, _, hcompiled⟩ := parse_printed hsimple
  exact ⟨⟨hwordy, hends, fun hread => hself.mp hread ⟨_, hends⟩, hword _ hends⟩, hsimple, rfl,
    hcompiled [simple] _ List.mem_cons_self rfl⟩

end Herbarium.Filter
