import Herbarium.Proofs.Clause.Columns
import Herbarium.Proofs.Decimal.Digits
import Herbarium.Proofs.Filter.Comparisons
import Mathlib.Data.List.Basic
import Mathlib.Data.List.TakeWhile

/-!
Layouts of value lists.

A statement that asks whether a column is among several values can be laid out in many ways: blanks around the word
`in`, around every piece of the list and next to its parentheses, and quotes around every piece. All layouts of one list
are compiled to the same text, with a placeholder for each piece. The pieces are found with one exception: the
parentheses and the quotes next to them are stripped together and nothing is stripped past a blank, so that a quote
which blanks keep apart from its parenthesis stays with the piece. `compile_layout` says what is left of the pieces in
every layout, and that it is the pieces exactly when the layout is tight.
-/

namespace Herbarium

open Outcome

/-! ## Quotes are no part of numbers -/

/-- The characters that may stand around a piece on both sides. -/
def IsQuote (c : Char) : Prop := c = '\'' ∨ c = '"'

namespace Decimal

variable {q : Char}

theorem digitValue?_quote (hq : IsQuote q) : digitValue? q = none := by
  rcases hq with rfl | rfl <;> rfl

theorem mem_spanSign (hq : IsQuote q) {cs : List Char} (h : q ∈ cs) : q ∈ (spanSign cs).2 := by
  unfold spanSign
  split
  · rcases List.mem_cons.mp h with rfl | h
    · rcases hq with hq | hq <;> cases hq
    · exact h
  · rcases List.mem_cons.mp h with rfl | h
    · rcases hq with hq | hq <;> cases hq
    · exact h
  · exact h

theorem mem_spanDigits (hq : IsQuote q) {cs : List Char} (h : q ∈ cs) : q ∈ (spanDigits cs).2 := by
  rw [spanDigits_eq]
  exact Text.mem_dropWhile (by rw [digitValue?_quote hq]; rfl) h

theorem mem_spanMantissa (hq : IsQuote q) {cs : List Char} (h : q ∈ cs) : q ∈ (spanMantissa cs).2.2 := by
  have hrest := mem_spanDigits hq h
  unfold spanMantissa
  split
  · next whole rest hspan =>
    rw [hspan] at hrest
    apply mem_spanDigits hq
    rcases List.mem_cons.mp hrest with rfl | hrest
    · rcases hq with hq | hq <;> cases hq
    · exact hrest
  · next hspan =>
    rw [hspan] at hrest
    exact hrest

theorem readExponent?_quote (hq : IsQuote q) {cs : List Char} (h : q ∈ cs) : readExponent? cs = none := by
  cases cs with
  | nil => cases h
  | cons c cs =>
    by_cases he : c = 'e' ∨ c = 'E'
    · have hcs : q ∈ cs := by
        rcases List.mem_cons.mp h with rfl | h
        · rcases hq with rfl | rfl <;> simp at he
        · exact h
      have hrest := mem_spanDigits hq (mem_spanSign hq hcs)
      rw [readExponent?, if_pos he]
      dsimp only
      split
      · rfl
      · next hspan =>
        rw [hspan] at hrest
        cases hrest
      · rfl
    · rw [readExponent?, if_neg he]

theorem read?_quote (hq : IsQuote q) {cs : List Char} (h : q ∈ cs) : read? cs = none := by
  have hrest := mem_spanMantissa hq (mem_spanSign hq h)
  simp [read?, readExponent?_quote hq hrest]

end Decimal

namespace Value

variable {q : Char}

theorem read?_quote (hq : IsQuote q) {s : String} (h : q ∈ s.toList) : Binary64.read? s = none := by
  have hname : ∀ name : String, (∀ c ∈ name.toList, ¬ IsQuote c) →
      String.ofList ((Decimal.spanSign s.toList).2.map Text.asciiLower) ≠ name := by
    intro name hplain heq
    have hlower : Text.asciiLower q = q := by rcases hq with rfl | rfl <;> decide
    refine hplain q ?_ hq
    rw [← heq, String.toList_ofList, List.mem_map]
    exact ⟨q, Decimal.mem_spanSign hq h, hlower⟩
  have hinf := hname "inf" (by simp [IsQuote])
  have hinfinity := hname "infinity" (by simp [IsQuote])
  have hnan := hname "nan" (by simp [IsQuote])
  rw [Binary64.read?, Binary64.read]
  cases hs : s.toList with
  | nil => rfl
  | cons c cs =>
    rw [hs] at h hinf hinfinity hnan
    simp [Decimal.read?_quote hq h, Binary64.ofName?, hinf, hinfinity, hnan, Except.toOption]

/-- A text with a quote in it stays text. -/
theorem coerce_quote (hq : IsQuote q) {s : String} (h : q ∈ s.toList) : coerce s = text s := by
  have hblank : Text.isBlank q = false := by rcases hq with rfl | rfl <;> decide
  have htrim : q ∈ (Text.trim s).toList := by
    rw [Text.trim, String.toList_ofList]
    exact Text.mem_trimMatches hblank h
  rw [coerce, read?_quote hq htrim]

/-- What a text is coerced to is no other text. -/
theorem coerce_ne_text {s t : String} (h : t ≠ s) : coerce s ≠ text t := by
  intro heq
  rw [coerce] at heq
  split at heq
  · unfold narrow at heq
    split at heq <;> cases heq
  · cases heq
    exact h rfl

end Value

namespace Clause

/-! ## Layouts -/

/-- Blanks, as many as one likes. -/
abbrev Blanks := { cs : List Char // ∀ c ∈ cs, Text.isBlank c = true }

/-- What may stand around a piece on both sides. -/
inductive Quotes where
  | none
  | single
  | double
  deriving DecidableEq

def Quotes.mark : Quotes → List Char
  | none => []
  | single => ['\'']
  | double => ['"']

/-- What keeps a piece apart from what surrounds it. -/
def isBoundary (c : Char) : Bool := Text.isBlank c || isWrapper c

/-- A piece of a value list as it is laid out. -/
structure Piece where
  text : String
  keeps : Text.Keeps isBoundary text.toList
  not_comma : ',' ∉ text.toList
  quotes : Quotes
  before : Blanks
  after : Blanks

namespace Piece

/-- A piece in its quotes, with blanks on both sides. -/
def written (p : Piece) : List Char :=
  p.before.val ++ p.quotes.mark ++ p.text.toList ++ (p.quotes.mark ++ p.after.val)

/-- Whether there are quotes with blanks before them. -/
def IsLooseBefore (p : Piece) : Prop := p.quotes ≠ .none ∧ p.before.val ≠ []

/-- Whether there are quotes with blanks after them. -/
def IsLooseAfter (p : Piece) : Prop := p.quotes ≠ .none ∧ p.after.val ≠ []

instance (p : Piece) : Decidable p.IsLooseBefore := inferInstanceAs (Decidable (_ ∧ _))

instance (p : Piece) : Decidable p.IsLooseAfter := inferInstanceAs (Decidable (_ ∧ _))

/-- What is left of a piece behind an opening parenthesis, before a closing one, or both. -/
def left (p : Piece) (opened closed : Bool) : String :=
  String.ofList ((if opened ∧ p.IsLooseBefore then p.quotes.mark else []) ++ p.text.toList ++
    if closed ∧ p.IsLooseAfter then p.quotes.mark else [])

end Piece

/-- What is left of the pieces of a list up to its closing parenthesis; the opening one may stand before them. -/
def leftOf (opened : Bool) : List Piece → List String
  | [] => []
  | [p] => [p.left opened true]
  | p :: next :: rest => p.left opened false :: leftOf false (next :: rest)

/-- A statement that asks whether a column is among pieces, as it is laid out. -/
structure Layout where
  column : String
  isColumn : IsColumn column.toList
  before : Blanks
  before_ne : before.val ≠ []
  word : String
  isWord : Text.asciiFold word = "in"
  after : Blanks
  after_ne : after.val ≠ []
  pieces : List Piece
  pieces_ne : pieces ≠ []

namespace Layout

/-- The list of pieces in its parentheses. -/
def list (l : Layout) : List Char :=
  '(' :: ([','].intercalate (l.pieces.map Piece.written) ++ [')'])

/-- The statement. -/
def text (l : Layout) : String :=
  l.column ++ String.ofList l.before.val ++ l.word ++ String.ofList l.after.val ++ String.ofList l.list

/-- Whether no blanks keep a quote apart from a parenthesis. -/
def IsTight (l : Layout) : Prop :=
  (∀ p ∈ l.pieces.head?, ¬ p.IsLooseBefore) ∧ ∀ p ∈ l.pieces.getLast?, ¬ p.IsLooseAfter

end Layout

/-! ## What is stripped -/

/-- What is taken off one side of a part of a list. -/
def strip (cs : List Char) : List Char :=
  ((cs.dropWhile Text.isBlank).dropWhile isWrapper).dropWhile Text.isBlank

theorem dropWhile_blanks (blanks : Blanks) {cs : List Char} (h : ∀ c ∈ cs.head?, Text.isBlank c = false) :
    (blanks.val ++ cs).dropWhile Text.isBlank = cs := by
  rw [List.dropWhile_append_of_pos blanks.property]
  cases cs with
  | nil => rfl
  | cons c cs => exact List.dropWhile_cons_of_neg (ne_true_of_eq_false (h c rfl))

theorem mark_not_blank (quotes : Quotes) : ∀ c ∈ quotes.mark.head?, Text.isBlank c = false := by
  intro c hc
  cases quotes <;> cases hc <;> rfl

theorem dropWhile_mark (quotes : Quotes) : quotes.mark.dropWhile isWrapper = [] := by
  cases quotes <;> rfl

theorem not_wrapper_of_blank {c : Char} (h : Text.isBlank c = true) : ¬ isWrapper c = true := by
  intro hc
  simp only [isWrapper, Bool.or_eq_true, beq_iff_eq] at hc
  rcases hc with ((rfl | rfl) | rfl) | rfl
  all_goals exact absurd h (by decide)

theorem strip_blanks (blanks : Blanks) (quotes : Quotes) : strip (blanks.val ++ quotes.mark) = [] := by
  rw [strip, dropWhile_blanks blanks (mark_not_blank quotes), dropWhile_mark]
  rfl

/-- Behind a parenthesis the mark is taken off only if no blanks stand before it. -/
theorem strip_parenthesis {c : Char} (hc : c = '(' ∨ c = ')') (blanks : Blanks) (quotes : Quotes) :
    strip (c :: (blanks.val ++ quotes.mark)) = if blanks.val = [] then [] else quotes.mark := by
  have hblank : Text.isBlank c = false := by rcases hc with rfl | rfl <;> decide
  have hwrapper : isWrapper c = true := by rcases hc with rfl | rfl <;> decide
  rw [strip, List.dropWhile_cons_of_neg (ne_true_of_eq_false hblank), List.dropWhile_cons_of_pos hwrapper]
  obtain ⟨blanks, hblanks⟩ := blanks
  cases blanks with
  | nil =>
    rw [List.nil_append, dropWhile_mark]
    rfl
  | cons b blanks =>
    have hb : ¬ isWrapper b = true := not_wrapper_of_blank (hblanks b List.mem_cons_self)
    have hstay : (b :: blanks ++ quotes.mark).dropWhile isWrapper = b :: blanks ++ quotes.mark :=
      List.dropWhile_cons_of_neg hb
    rw [if_neg (List.cons_ne_nil b blanks), hstay]
    exact dropWhile_blanks ⟨b :: blanks, hblanks⟩ (mark_not_blank quotes)

namespace Piece

variable (p : Piece)

theorem strip_before (opened : Bool) :
    strip ((if opened then ['('] else []) ++ (p.before.val ++ p.quotes.mark)) =
      if opened ∧ p.IsLooseBefore then p.quotes.mark else [] := by
  cases opened with
  | false => simpa using strip_blanks p.before p.quotes
  | true =>
    have hstrip := strip_parenthesis (Or.inl rfl) p.before p.quotes
    simp only [if_true, List.singleton_append, hstrip, true_and, IsLooseBefore]
    by_cases hblanks : p.before.val = []
    · simp [hblanks]
    · cases hquotes : p.quotes <;> simp [hblanks, Quotes.mark]

theorem strip_after (closed : Bool) :
    (strip (p.quotes.mark ++ p.after.val ++ if closed then [')'] else []).reverse).reverse =
      if closed ∧ p.IsLooseAfter then p.quotes.mark else [] := by
  have hmark : p.quotes.mark.reverse = p.quotes.mark := by cases p.quotes <;> rfl
  let after : Blanks := ⟨p.after.val.reverse, fun c hc => p.after.property c (List.mem_reverse.mp hc)⟩
  cases closed with
  | false =>
    have hstrip := strip_blanks after p.quotes
    simp [hmark, after] at hstrip ⊢
    rw [hstrip]
  | true =>
    have hstrip := strip_parenthesis (Or.inr rfl) after p.quotes
    simp [hmark, after] at hstrip ⊢
    rw [hstrip]
    by_cases hblanks : p.after.val = []
    · simp [hblanks, IsLooseAfter]
    · cases hquotes : p.quotes <;> simp [hblanks, hquotes, Quotes.mark, IsLooseAfter]

/-- A part of a list: a piece with the parentheses that stand next to it. -/
def part (opened closed : Bool) : List Char :=
  (if opened then ['('] else []) ++ p.written ++ if closed then [')'] else []

theorem keeps_blank : Text.Keeps Text.isBlank p.text.toList where
  ne_nil := p.keeps.ne_nil
  first := fun c hc => (Bool.or_eq_false_iff.mp (p.keeps.first c hc)).1
  last := fun c hc => (Bool.or_eq_false_iff.mp (p.keeps.last c hc)).1

theorem keeps_wrapper : Text.Keeps isWrapper p.text.toList where
  ne_nil := p.keeps.ne_nil
  first := fun c hc => (Bool.or_eq_false_iff.mp (p.keeps.first c hc)).2
  last := fun c hc => (Bool.or_eq_false_iff.mp (p.keeps.last c hc)).2

/-- What is left of a part after it was trimmed. -/
theorem trim_part (opened closed : Bool) :
    String.ofList (Text.trimChars (Text.trimMatches isWrapper (Text.trimChars (p.part opened closed)))) =
      p.left opened closed := by
  have hpart : p.part opened closed =
      ((if opened then ['('] else []) ++ (p.before.val ++ p.quotes.mark)) ++ p.text.toList ++
        (p.quotes.mark ++ p.after.val ++ if closed then [')'] else []) := by
    simp [part, written]
  -- each side is trimmed three times, the piece between them stays
  rw [hpart, left, ← p.strip_before opened, ← p.strip_after closed]
  simp only [Text.trimChars, p.keeps_blank.trimMatches_append, p.keeps_wrapper.trimMatches_append,
    List.reverse_reverse, strip]

end Piece

/-- The parts of a list between its commas. -/
def parts (opened : Bool) : List Piece → List (List Char)
  | [] => []
  | [p] => [p.part opened true]
  | p :: next :: rest => p.part opened false :: parts false (next :: rest)

theorem parts_ne_nil (opened : Bool) {ps : List Piece} (h : ps ≠ []) : parts opened ps ≠ [] := by
  match ps, h with
  | [_], _ => simp [parts]
  | _ :: _ :: _, _ => simp [parts]

theorem length_parts : ∀ (opened : Bool) (ps : List Piece), (parts opened ps).length = ps.length
  | _, [] => rfl
  | _, [_] => rfl
  | _, _ :: next :: rest => by
    rw [parts, List.length_cons, List.length_cons, length_parts false (next :: rest)]

theorem map_trim_parts : ∀ (opened : Bool) (ps : List Piece),
    (parts opened ps).map (fun part =>
      String.ofList (Text.trimChars (Text.trimMatches isWrapper (Text.trimChars part)))) = leftOf opened ps
  | _, [] => rfl
  | opened, [p] => by simp only [parts, leftOf, List.map_cons, List.map_nil, p.trim_part]
  | opened, p :: next :: rest => by
    simp only [parts, leftOf, List.map_cons, p.trim_part]
    congr 1
    exact map_trim_parts false (next :: rest)

theorem intercalate_parts : ∀ (opened : Bool) {ps : List Piece}, ps ≠ [] →
    [','].intercalate (parts opened ps) =
      (if opened then ['('] else []) ++ ([','].intercalate (ps.map Piece.written) ++ [')'])
  | opened, [p], _ => by simp [parts, Piece.part]
  | opened, p :: next :: rest, _ => by
    obtain ⟨part, more, hparts⟩ := List.exists_cons_of_ne_nil (parts_ne_nil false (List.cons_ne_nil next rest))
    have hrest := intercalate_parts false (List.cons_ne_nil next rest)
    simp only [parts, hparts, List.map_cons, List.intercalate_cons_cons] at hrest ⊢
    rw [hrest]
    simp [Piece.part]

theorem not_comma_of_blank {c : Char} (h : Text.isBlank c = true) : c ≠ ',' := by
  rintro rfl
  exact absurd h (by decide)

theorem Piece.not_comma_part (p : Piece) (opened closed : Bool) : ',' ∉ p.part opened closed := by
  have hbefore : ',' ∉ p.before.val := fun h => not_comma_of_blank (p.before.property _ h) rfl
  have hafter : ',' ∉ p.after.val := fun h => not_comma_of_blank (p.after.property _ h) rfl
  have hmark : ',' ∉ p.quotes.mark := by cases p.quotes <;> decide
  cases opened <;> cases closed <;> simp [Piece.part, Piece.written, hbefore, hafter, hmark, p.not_comma]

theorem not_comma_parts : ∀ (opened : Bool) (ps : List Piece), ∀ part ∈ parts opened ps, ',' ∉ part
  | _, [] => by simp [parts]
  | opened, [p] => by simpa [parts] using p.not_comma_part opened true
  | opened, p :: next :: rest => by
    intro part hpart
    rcases List.mem_cons.mp hpart with rfl | hpart
    · exact p.not_comma_part opened false
    · exact not_comma_parts false (next :: rest) part hpart

/-- The pieces of a list as it is laid out. -/
theorem pieces_list (l : Layout) : Clause.pieces (String.ofList l.list) = leftOf true l.pieces := by
  have hlist : l.list = [','].intercalate (parts true l.pieces) := by
    rw [intercalate_parts true l.pieces_ne]
    rfl
  rw [Clause.pieces, String.toList_ofList, splitCommas, hlist,
    List.splitOn_intercalate ',' (not_comma_parts true l.pieces) (parts_ne_nil true l.pieces_ne), map_trim_parts]

/-! ## What is left -/

namespace Piece

variable {p : Piece} {opened closed : Bool}

theorem left_eq_text (hbefore : opened = true → ¬ p.IsLooseBefore) (hafter : closed = true → ¬ p.IsLooseAfter) :
    p.left opened closed = p.text := by
  rw [left, if_neg fun h => hbefore h.1 h.2, if_neg fun h => hafter h.1 h.2]
  simp

theorem exists_mark (h : p.quotes ≠ .none) : ∃ q, IsQuote q ∧ p.quotes.mark = [q] := by
  cases hquotes : p.quotes with
  | none => exact absurd hquotes h
  | single => exact ⟨'\'', Or.inl rfl, rfl⟩
  | double => exact ⟨'"', Or.inr rfl, rfl⟩

/-- A quote that is left makes the piece another text, and it is compared as a text. -/
theorem coerce_left_ne (h : opened = true ∧ p.IsLooseBefore ∨ closed = true ∧ p.IsLooseAfter) :
    Value.coerce (p.left opened closed) ≠ Value.coerce p.text := by
  have hquotes : p.quotes ≠ .none := by
    rcases h with h | h
    · exact h.2.1
    · exact h.2.1
  obtain ⟨q, hq, hmark⟩ := exists_mark hquotes
  have hmem : q ∈ (p.left opened closed).toList := by
    rw [left, String.toList_ofList, hmark]
    rcases h with h | h
    · simp [h]
    · simp [h]
  have hlonger : p.left opened closed ≠ p.text := by
    intro heq
    have hlength := congrArg (fun s => s.toList.length) heq
    simp only [left, String.toList_ofList, hmark] at hlength
    rcases h with h | h
    · rw [if_pos h] at hlength
      simp at hlength
      omega
    · rw [if_pos h] at hlength
      simp at hlength
      omega
  rw [Value.coerce_quote hq hmem]
  exact (Value.coerce_ne_text hlonger).symm

theorem coerce_left_iff :
    Value.coerce (p.left opened closed) = Value.coerce p.text ↔
      (opened = true → ¬ p.IsLooseBefore) ∧ (closed = true → ¬ p.IsLooseAfter) := by
  constructor
  · intro heq
    exact ⟨fun hopened hloose => coerce_left_ne (Or.inl ⟨hopened, hloose⟩) heq,
      fun hclosed hloose => coerce_left_ne (Or.inr ⟨hclosed, hloose⟩) heq⟩
  · rintro ⟨hbefore, hafter⟩
    rw [left_eq_text hbefore hafter]

end Piece

/-- What is left of pieces is compared as the pieces are exactly when no quote is left at either end. -/
theorem coerce_leftOf_iff : ∀ (opened : Bool) {ps : List Piece}, ps ≠ [] →
    ((leftOf opened ps).map Value.coerce = ps.map (fun p => Value.coerce p.text) ↔
      (opened = true → ∀ p ∈ ps.head?, ¬ p.IsLooseBefore) ∧ ∀ p ∈ ps.getLast?, ¬ p.IsLooseAfter)
  | opened, [p], _ => by
    simp [leftOf, Piece.coerce_left_iff]
  | opened, p :: next :: rest, _ => by
    have hrest := coerce_leftOf_iff false (List.cons_ne_nil next rest)
    have hlast : (p :: next :: rest).getLast? = (next :: rest).getLast? := List.getLast?_cons_cons
    rw [leftOf, List.map_cons, List.map_cons, List.cons.injEq, Piece.coerce_left_iff, hrest, hlast]
    simp

/-! ## Reading a layout -/

namespace Layout

variable (l : Layout)

theorem keeps_list : Text.Keeps Text.isBlank l.list where
  ne_nil := List.cons_ne_nil _ _
  first := by
    intro c hc
    cases hc
    decide
  last := by
    intro c hc
    have hlast : l.list.getLast? = some ')' := by
      rw [list, ← List.cons_append, List.getLast?_concat]
    rw [hlast] at hc
    cases hc
    decide

theorem keeps_column : Text.Keeps Text.isBlank l.column.toList where
  ne_nil := l.isColumn.ne_nil
  first := fun c hc => Filter.isBlank_of_name (l.isColumn.chars c (List.mem_of_head? hc))
  last := fun c hc => Filter.isBlank_of_name (l.isColumn.chars c (List.mem_of_getLast? hc))

theorem keeps_text : Text.Keeps Text.isBlank l.text.toList := by
  have hkeeps := l.keeps_column.append l.keeps_list (l.before.val ++ (l.word.toList ++ l.after.val))
  simpa [text] using hkeeps

theorem exists_word : ∃ i n, l.word.toList = [i, n] ∧ (i = 'i' ∨ i = 'I') ∧ (n = 'n' ∨ n = 'N') := by
  have hword : Filter.isInWord l.word.toList = true := by
    have hfold := congrArg String.toList l.isWord
    rw [Text.asciiFold, String.toList_ofList] at hfold
    rw [Filter.isInWord, hfold]
    rfl
  exact Filter.isInWord_iff.mp hword

end Layout

theorem not_startsToken_of_blanks {b c : Char} (hc : Text.isBlank c = true) (hb : Text.isBlank b = true)
    (t : List Char) : ¬ Filter.StartsToken (b :: c :: t) := by
  apply Filter.not_startsToken_blank hb
  constructor
  · rintro rfl
    exact absurd hc (by decide)
  · rintro rfl
    exact absurd hc (by decide)

/-- The first token behind blanks starts with the last of them. -/
theorem firstToken_blanks {b i n e : Char} (hb : Text.isBlank b = true) (hi : i = 'i' ∨ i = 'I')
    (hn : n = 'n' ∨ n = 'N') (he : Text.isBlank e = true) (after : List Char) :
    ∀ {front : List Char}, (∀ c ∈ front, Text.isBlank c = true) →
      Filter.FirstToken (front ++ ([b, i, n, e] ++ after)) front .isIn after
  | [], _ => .here (.isIn hb hi hn he)
  | c :: front, hfront => by
    have hrest := firstToken_blanks hb hi hn he after fun d hd => hfront d (List.mem_cons_of_mem c hd)
    refine .there ?_ hrest
    have hc := hfront c List.mem_cons_self
    cases front with
    | nil => exact not_startsToken_of_blanks hb hc _
    | cons d front => exact not_startsToken_of_blanks (hfront d (by simp)) hc _

namespace Layout

variable (l : Layout)

/-- A layout is read as its column, the operator and its list. -/
theorem parse_text :
    Filter.parse l.text = .ok { column := l.column, operator := .isIn, value := String.ofList l.list } := by
  obtain ⟨front, b, hbefore⟩ := (List.eq_nil_or_concat' l.before.val).resolve_left l.before_ne
  obtain ⟨e, back, hafter⟩ := List.exists_cons_of_ne_nil l.after_ne
  obtain ⟨i, n, hword, hi, hn⟩ := l.exists_word
  have hblank : ∀ c ∈ front ++ [b], Text.isBlank c = true := hbefore ▸ l.before.property
  have hfront : ∀ c ∈ front, Text.isBlank c = true := fun c hc => hblank c (by simp [hc])
  have hback : ∀ c ∈ e :: back, Text.isBlank c = true := hafter ▸ l.after.property
  have hchars : Text.trimChars l.text.toList = l.column.toList ++ (front ++ ([b, i, n, e] ++ (back ++ l.list))) := by
    rw [Text.trimChars, l.keeps_text.trimMatches_self]
    simp [text, hbefore, hafter, hword]
  have hfirst : Filter.FirstToken (Text.trimChars l.text.toList) (l.column.toList ++ front) .isIn (back ++ l.list) := by
    rw [hchars]
    exact (firstToken_blanks (hblank b (by simp)) hi hn (hback e (by simp)) _ hfront).behind_name
      l.isColumn.chars
  have hbefore : Text.trimChars (l.column.toList ++ front) = l.column.toList := l.keeps_column.trimMatches_back hfront
  have hafter : Text.trimChars (back ++ l.list) = l.list := by
    have htrim := l.keeps_list.trimMatches_append back []
    have hall : back.dropWhile Text.isBlank = [] :=
      List.dropWhile_eq_nil_iff.mpr fun c hc => hback c (List.mem_cons_of_mem e hc)
    simpa [Text.trimChars, hall] using htrim
  rw [Filter.parse_first hfirst, hbefore, hafter, if_neg l.isColumn.ne_nil, if_neg l.keeps_list.ne_nil,
    String.ofList_toList]

/-- The text and the parameters that a layout is compiled to. -/
theorem compile_filter :
    ∃ clause, compile [{ column := l.column, operator := .isIn, value := String.ofList l.list }] = .ok (some clause) ∧
      clause.sql = "WHERE " ++ l.column ++ " IN (" ++ String.intercalate "," (l.pieces.map fun _ => "?") ++ ")" ∧
      clause.params = (leftOf true l.pieces).map Value.coerce := by
  refine ⟨_, compile_cons (by simpa using l.isColumn), ?_, ?_⟩
  · have hlength : (leftOf true l.pieces).length = l.pieces.length := by
      rw [← map_trim_parts, List.length_map, length_parts]
    have hmarks : ((leftOf true l.pieces).map Value.coerce).map (fun _ => "?") = l.pieces.map fun _ => "?" := by
      have hconst : ∀ vs : List Value, vs.map (fun _ => "?") = List.replicate vs.length "?" := fun vs => List.map_const'
      rw [hconst, List.length_map, hlength, List.map_const']
    simp [sql, conditions, condition, testOf, Condition.sql, pieces_list, hmarks, String.append_assoc]
  · simp [params, conditions, condition, testOf, Test.operands, pieces_list]

end Layout

/-- Every layout of a value list is read and compiled: to the text with one placeholder for each piece, and to what is
left of the pieces as parameters, in their order. These are the pieces themselves exactly when no quote is kept apart
from a parenthesis by blanks. -/
theorem compile_layout (l : Layout) :
    ∃ f clause, Filter.parse l.text = .ok f ∧ compile [f] = .ok (some clause) ∧
      clause.sql = "WHERE " ++ l.column ++ " IN (" ++ String.intercalate "," (l.pieces.map fun _ => "?") ++ ")" ∧
      clause.params = (leftOf true l.pieces).map Value.coerce ∧
      (clause.params = l.pieces.map (fun p => Value.coerce p.text) ↔ l.IsTight) := by
  obtain ⟨clause, hcompile, hsql, hparams⟩ := l.compile_filter
  refine ⟨_, clause, l.parse_text, hcompile, hsql, hparams, ?_⟩
  rw [hparams, coerce_leftOf_iff true l.pieces_ne, Layout.IsTight]
  simp

/-- The statement `species in ( 'setosa' )`. -/
def apart : Layout where
  column := "species"
  isColumn := isColumn_iff.mp (Or.inl (by decide))
  before := ⟨[' '], List.forall_mem_singleton.mpr rfl⟩
  before_ne := by decide
  word := "in"
  isWord := by decide
  after := ⟨[' '], List.forall_mem_singleton.mpr rfl⟩
  after_ne := by decide
  pieces := [{
    text := "setosa"
    keeps := ⟨by decide, by rintro c ⟨⟩; rfl, by rintro c ⟨⟩; rfl⟩
    not_comma := by decide
    quotes := .single
    before := ⟨[' '], List.forall_mem_singleton.mpr rfl⟩
    after := ⟨[' '], List.forall_mem_singleton.mpr rfl⟩ }]
  pieces_ne := by decide

/-- Not every layout is compiled to its pieces: blanks between a parenthesis and a quote leave the quote with the
piece. -/
theorem compile_blank_before_quote :
    ¬ ∀ l : Layout, ∃ f clause, Filter.parse l.text = .ok f ∧ compile [f] = .ok (some clause) ∧
      clause.params = l.pieces.map fun p => Value.coerce p.text := by
  intro hclaim
  obtain ⟨f, clause, hparse, hcompile, hparams⟩ := hclaim apart
  obtain ⟨clause', hcompile', _, hparams'⟩ := apart.compile_filter
  rw [apart.parse_text] at hparse
  cases hparse
  rw [hcompile'] at hcompile
  cases hcompile
  rw [hparams', coerce_leftOf_iff true apart.pieces_ne] at hparams
  exact absurd hparams.2 (by decide)

end Clause

end Herbarium
