import Herbarium.Filter.Parser
import Herbarium.Proofs.Filter.Grammar

/-!
Filter statements are read by their grammar.

The lexer always stands between two characters: it is `past before rest phase`, and what it passes moves from `rest` to
`before`. So every cut it makes is at a boundary of characters. It stops at the first token, passes it, and takes what
is left for the value. Where the first token stands decides what a statement is read as, or with which fault it is
refused.
-/

namespace Herbarium.Filter

open Outcome

namespace Lexer

/-- A lexer that has passed the characters before some others. -/
def past (before rest : List Char) (phase : Phase) : Lexer :=
  { source := before ++ rest, ahead := Text.indices (Text.byteLength before) rest, phase }

variable {before t token after : List Char} {op : Operator}

/-- The head of what is ahead is a position where the text can be cut. -/
theorem seekOperator_cons (passed : List Char) (c : Char) (t : List Char) :
    seekOperator (passed ++ c :: t) (Text.indices (Text.byteLength passed) (c :: t)) = (do
      match ← operatorAt (c :: t) with
      | some _ => return some (Text.byteLength passed, Text.indices (Text.byteLength passed) (c :: t))
      | none =>
        seekOperator ((passed ++ [c]) ++ t) (Text.indices (Text.byteLength (passed ++ [c])) t)) := by
  have hlength : Text.byteLength (passed ++ [c]) = Text.byteLength passed + c.utf8Size := by
    rw [Text.byteLength_append, Text.byteLength_cons, Text.byteLength_nil, Nat.add_zero]
  rw [Text.indices, seekOperator, sliceFrom_append, ok_bind, hlength, List.append_assoc]
  rfl

/-- The lexer stops at the first token. -/
theorem seekOperator_first (htoken : IsToken op token) :
    ∀ (before passed : List Char), FirstToken (before ++ (token ++ after)) before op after →
      seekOperator (passed ++ (before ++ (token ++ after)))
          (Text.indices (Text.byteLength passed) (before ++ (token ++ after))) =
        .ok (some (Text.byteLength (passed ++ before),
          Text.indices (Text.byteLength (passed ++ before)) (token ++ after))) := by
  intro before
  induction before with
  | nil =>
    intro passed _
    obtain ⟨c, token, rfl⟩ : ∃ c token', token = c :: token' := by cases htoken <;> exact ⟨_, _, rfl⟩
    rw [List.nil_append, List.cons_append, seekOperator_cons, ← List.cons_append, operatorAt_token htoken, ok_bind,
      List.append_nil]
    rfl
  | cons c before ih =>
    intro passed h
    have hnone : ¬ StartsToken (c :: before ++ (token ++ after)) := h.first [] _ rfl (Nat.succ_pos _)
    have hrest : FirstToken (before ++ (token ++ after)) before op after :=
      ⟨⟨token, htoken, rfl⟩, fun earlier rest heq hlt =>
        h.first (c :: earlier) rest (congrArg (c :: ·) heq) (Nat.succ_lt_succ hlt)⟩
    -- no token starts here, so the character is passed
    rw [List.cons_append, seekOperator_cons, ← List.cons_append, operatorAt_of_not_startsToken hnone, ok_bind]
    simpa using ih (passed ++ [c]) hrest

/-- The lexer finds nothing where no token starts. -/
theorem seekOperator_none : ∀ (t passed : List Char), NoToken t →
    seekOperator (passed ++ t) (Text.indices (Text.byteLength passed) t) = .ok none
  | [], passed, _ => rfl
  | c :: t, passed, h => by
    have hnone : ¬ StartsToken (c :: t) := h [] _ rfl
    rw [seekOperator_cons, operatorAt_of_not_startsToken hnone, ok_bind]
    exact seekOperator_none t (passed ++ [c]) fun earlier rest heq =>
      h (c :: earlier) rest (congrArg (c :: ·) heq)

/-! ## The steps of the lexer -/

theorem scanColumn_none (h : NoToken t) :
    (past [] t .column).scanColumn = .error (.noOperator (String.ofList t)) := by
  have hseek : seekOperator (past [] t .column).source (past [] t .column).ahead = .ok none :=
    seekOperator_none t [] h
  rw [scanColumn, hseek, ok_bind]
  rfl

theorem scanColumn_first (htoken : IsToken op token)
    (h : FirstToken (before ++ (token ++ after)) before op after) :
    (past [] (before ++ (token ++ after)) .column).scanColumn =
      if Text.trimChars before = [] then .error (.noColumn (String.ofList (before ++ (token ++ after))))
      else .ok (.column (String.ofList (Text.trimChars before)), past before (token ++ after) .operator) := by
  have hseek := seekOperator_first htoken before [] h
  have hcut : sliceTo (Text.byteLength ([] ++ before)) ([] ++ (before ++ (token ++ after))) = .ok before :=
    sliceTo_append before (token ++ after)
  rw [scanColumn, past]
  simp only [hseek, hcut, ok_bind, throw_eq_error, pure_eq_ok]
  split <;> rfl

theorem scanOperator_token (before after : List Char) (htoken : IsToken op token) :
    (past before (token ++ after) .operator).scanOperator =
      .ok (.operator op, past (before ++ token) after .value) := by
  have hcut : sliceFrom (Text.byteLength before) (past before (token ++ after) .operator).source =
      .ok (token ++ after) := sliceFrom_append before (token ++ after)
  have hpass := Text.dropWhile_indices (Text.byteLength before) token after
  rw [scanOperator]
  split
  case h_1 hahead =>
    -- a token has a first character
    cases htoken <;> cases hahead
  case h_2 offset c rest hahead =>
    have hoffset : offset = Text.byteLength before := by
      cases htoken <;> exact (congrArg Prod.fst (List.cons.inj hahead).1).symm
    subst hoffset
    rw [hcut, ok_bind, operatorAt_token htoken, ok_bind]
    simp only [past, hpass, Text.byteLength_append, List.append_assoc, pure_eq_ok]

theorem scanValue_rest (before after : List Char) :
    (past before after .value).scanValue =
      if Text.trimChars after = [] then .error (.noValue (String.ofList (before ++ after)))
      else .ok (.value (String.ofList (Text.trimChars after)), past before after .done) := by
  have hrest : (past before after .value).remainder = .ok after := by
    cases after with
    | nil => rfl
    | cons c after => exact sliceFrom_append before (c :: after)
  rw [scanValue, hrest, ok_bind]
  by_cases hvalue : Text.trimChars after = []
  · simp only [hvalue, if_true, throw_eq_error, error_bind]
    rfl
  · simp only [hvalue, if_false, pure_eq_ok]
    rfl

end Lexer

/-! ## Whole statements -/

section

variable {α : Type} {due : String} {pick : Token → Option α} {l l' : Lexer}

theorem readToken_error {fault : Fault} (h : l.scan = some (.error fault)) : readToken due pick l = .error fault := by
  rw [readToken, Lexer.next, h]
  rfl

theorem readToken_ok {token : Token} {a : α} (h : l.scan = some (.ok (token, l'))) (ha : pick token = some a) :
    readToken due pick l = .ok (a, l') := by
  rw [readToken, Lexer.next, h]
  simp only [Option.map_some, ha]

end

section

variable {before token after : List Char} {op : Operator}

theorem readToken_column (htoken : IsToken op token) (h : FirstToken (before ++ (token ++ after)) before op after) :
    readToken "column" Token.column? (.past [] (before ++ (token ++ after)) .column) =
      if Text.trimChars before = [] then .error (.noColumn (String.ofList (before ++ (token ++ after))))
      else .ok (String.ofList (Text.trimChars before), .past before (token ++ after) .operator) := by
  have hscan := Lexer.scanColumn_first htoken h
  split
  case isTrue hbefore =>
    rw [if_pos hbefore] at hscan
    exact readToken_error (congrArg some hscan)
  case isFalse hbefore =>
    rw [if_neg hbefore] at hscan
    exact readToken_ok (congrArg some hscan) rfl

theorem readToken_operator (htoken : IsToken op token) :
    readToken "operator" Token.operator? (.past before (token ++ after) .operator) =
      .ok (op, .past (before ++ token) after .value) :=
  readToken_ok (congrArg some (Lexer.scanOperator_token before after htoken)) rfl

theorem readToken_value :
    readToken "value" Token.value? (.past before after .value) =
      if Text.trimChars after = [] then .error (.noValue (String.ofList (before ++ after)))
      else .ok (String.ofList (Text.trimChars after), .past before after .done) := by
  have hscan := Lexer.scanValue_rest before after
  split
  case isTrue hafter =>
    rw [if_pos hafter] at hscan
    exact readToken_error (congrArg some hscan)
  case isFalse hafter =>
    rw [if_neg hafter] at hscan
    exact readToken_ok (congrArg some hscan) rfl

end

variable {statement : String}

/-- A statement in which no token starts. -/
theorem parse_none (h : NoToken (Text.trimChars statement.toList)) :
    parse statement = .error (.noOperator (Text.trim statement)) := by
  have hread : readToken "column" Token.column? (Lexer.start statement) =
      .error (.noOperator (Text.trim statement)) :=
    readToken_error (congrArg some (Lexer.scanColumn_none h))
  rw [parse, hread, error_bind]

/-- A statement that is cut at its first token. -/
theorem parse_first {before after : List Char} {op : Operator}
    (h : FirstToken (Text.trimChars statement.toList) before op after) :
    parse statement =
      if Text.trimChars before = [] then .error (.noColumn (Text.trim statement))
      else if Text.trimChars after = [] then .error (.noValue (Text.trim statement))
      else .ok { column := String.ofList (Text.trimChars before), operator := op,
                 value := String.ofList (Text.trimChars after) } := by
  obtain ⟨token, htoken, ht⟩ := h.token
  have hstart : Lexer.start statement = .past [] (before ++ (token ++ after)) .column := ht ▸ rfl
  have htrim : Text.trim statement = String.ofList (before ++ (token ++ after)) := ht ▸ rfl
  rw [parse, hstart, htrim, readToken_column htoken (ht ▸ h)]
  by_cases hbefore : Text.trimChars before = []
  · rw [if_pos hbefore, if_pos hbefore, error_bind]
  · rw [if_neg hbefore, if_neg hbefore, ok_bind]
    simp only [readToken_operator htoken, ok_bind, readToken_value, List.append_assoc]
    by_cases hafter : Text.trimChars after = []
    · rw [if_pos hafter, if_pos hafter, error_bind]
    · rw [if_neg hafter, if_neg hafter, ok_bind]
      rfl

example : parse "a<b=c" = .ok { column := "a", operator := .lessThan, value := "b=c" } := by rfl

example : parse " x\tiN y = 1" = .ok { column := "x", operator := .isIn, value := "y = 1" } := by rfl

theorem parse_eq_ok_iff {f : Filter} :
    parse statement = .ok f ↔
      ∃ before op after, FirstToken (Text.trimChars statement.toList) before op after ∧
        Text.trimChars before ≠ [] ∧ Text.trimChars after ≠ [] ∧
        f = { column := String.ofList (Text.trimChars before), operator := op,
              value := String.ofList (Text.trimChars after) } := by
  constructor
  · intro hread
    rcases firstToken_cases (Text.trimChars statement.toList) with ⟨before, op, after, h⟩ | hnone
    · rw [parse_first h] at hread
      by_cases hbefore : Text.trimChars before = []
      · rw [if_pos hbefore] at hread
        cases hread
      by_cases hafter : Text.trimChars after = []
      · rw [if_neg hbefore, if_pos hafter] at hread
        cases hread
      rw [if_neg hbefore, if_neg hafter] at hread
      injection hread with hread
      exact ⟨before, op, after, h, hbefore, hafter, hread.symm⟩
    · rw [parse_none hnone] at hread
      cases hread
  · rintro ⟨before, op, after, h, hbefore, hafter, rfl⟩
    rw [parse_first h, if_neg hbefore, if_neg hafter]

theorem parse_eq_error_iff {fault : Fault} :
    parse statement = .error fault ↔
      (fault = .noOperator (Text.trim statement) ∧ NoToken (Text.trimChars statement.toList)) ∨
      ∃ before op after, FirstToken (Text.trimChars statement.toList) before op after ∧
        (fault = .noColumn (Text.trim statement) ∧ Text.trimChars before = [] ∨
          fault = .noValue (Text.trim statement) ∧ Text.trimChars before ≠ [] ∧ Text.trimChars after = []) := by
  constructor
  · intro hread
    rcases firstToken_cases (Text.trimChars statement.toList) with ⟨before, op, after, h⟩ | hnone
    · right
      refine ⟨before, op, after, h, ?_⟩
      rw [parse_first h] at hread
      by_cases hbefore : Text.trimChars before = []
      · rw [if_pos hbefore] at hread
        injection hread with hread
        exact Or.inl ⟨hread.symm, hbefore⟩
      by_cases hafter : Text.trimChars after = []
      · rw [if_neg hbefore, if_pos hafter] at hread
        injection hread with hread
        exact Or.inr ⟨hread.symm, hbefore, hafter⟩
      rw [if_neg hbefore, if_neg hafter] at hread
      cases hread
    · rw [parse_none hnone] at hread
      injection hread with hread
      exact Or.inl ⟨hread.symm, hnone⟩
  · rintro (⟨rfl, hnone⟩ | ⟨before, op, after, h, ⟨rfl, hbefore⟩ | ⟨rfl, hbefore, hafter⟩⟩)
    · exact parse_none hnone
    · rw [parse_first h, if_pos hbefore]
    · rw [parse_first h, if_neg hbefore, if_pos hafter]

/-- What is read, and what is refused with which fault. A statement is its column, the first operator and its value,
where neither the column nor the value may be empty; the operator is that of its first token, and no text has two first
tokens. No other fault comes about: no cut is off the boundaries of characters, no token is missing or out of place. -/
theorem parse_iff (statement : String) :
    (∀ f, parse statement = .ok f ↔
      ∃ before op after, FirstToken (Text.trimChars statement.toList) before op after ∧
        Text.trimChars before ≠ [] ∧ Text.trimChars after ≠ [] ∧
        f = { column := String.ofList (Text.trimChars before), operator := op,
              value := String.ofList (Text.trimChars after) }) ∧
    (∀ fault, parse statement = .error fault ↔
      (fault = .noOperator (Text.trim statement) ∧ NoToken (Text.trimChars statement.toList)) ∨
      ∃ before op after, FirstToken (Text.trimChars statement.toList) before op after ∧
        (fault = .noColumn (Text.trim statement) ∧ Text.trimChars before = [] ∨
          fault = .noValue (Text.trim statement) ∧ Text.trimChars before ≠ [] ∧ Text.trimChars after = [])) ∧
    (∀ before op after before' op' after', FirstToken (Text.trimChars statement.toList) before op after →
      FirstToken (Text.trimChars statement.toList) before' op' after' →
      before = before' ∧ op = op' ∧ after = after') :=
  ⟨fun _ => parse_eq_ok_iff, fun _ => parse_eq_error_iff, fun _ _ _ _ _ _ h h' => h.unique h'⟩

end Herbarium.Filter
