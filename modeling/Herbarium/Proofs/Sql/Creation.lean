import Herbarium.Sql.Statement
import Herbarium.Proofs.Outcome
import Mathlib.Data.List.TakeDrop

/-!
The text that creates a table.

A schema whose names are plain is printed as a statement, and the statement's text is read as the schema's columns
(`readText_create`). The text is cut into its words and symbols (`Cuts`), whatever bytes they start at; from these the
columns are read one by one, by induction on the columns. The declaration of a column is read as its type only if it can
be a name: the declaration of a column of nothing is a constraint, and what is left of its type is empty.
-/

namespace Herbarium.Sql

open Outcome

/-! ## Cutting a text -/

/-- A token's kind and text, wherever it starts. -/
def Token.shape (t : Token) : TokenKind × String := (t.kind, t.raw)

/-- A word of a text. -/
abbrev word (s : String) : TokenKind × String := (.word, s)

/-- A symbol of a text. -/
abbrev symbol (s : String) : TokenKind × String := (.symbol, s)

/-- Whether a text is cut into tokens of these kinds and texts. -/
def Cuts (cs : List Char) (shapes : List (TokenKind × String)) : Prop :=
  ∀ fuel offset, cs.length ≤ fuel → (tokensFrom fuel offset cs).map Token.shape = shapes

/-- A text that does not go on with a word. -/
def EndsWord (cs : List Char) : Prop := ∀ c ∈ cs.head?, isWordPart c = false ∧ c ≠ '\''

variable {c : Char} {cs rest : List Char} {shapes : List (TokenKind × String)}

theorem endsWord_cons (hc : isWordPart c = false ∧ c ≠ '\'') (rest : List Char) : EndsWord (c :: rest) := by
  rintro _ ⟨⟩
  exact hc

theorem cuts_nil : Cuts [] [] := by
  intro fuel offset _
  cases fuel <;> rfl

theorem tokensFrom_blank (fuel offset : Nat) (rest : List Char) :
    tokensFrom (fuel + 1) offset (' ' :: rest) = tokensFrom fuel (offset + 1) rest := rfl

theorem cuts_blank (h : Cuts rest shapes) : Cuts (' ' :: rest) shapes := by
  intro fuel offset hfuel
  cases fuel with
  | zero => exact absurd hfuel (Nat.not_succ_le_zero _)
  | succ fuel =>
    rw [tokensFrom_blank]
    exact h fuel _ (Nat.le_of_succ_le_succ hfuel)

/-- A character that starts no comment and is no blank starts a token. -/
theorem tokensFrom_token (fuel offset : Nat) (hdash : c ≠ '-') (hslash : c ≠ '/') (hblank : isSpace c = false) :
    tokensFrom (fuel + 1) offset (c :: rest) =
      { kind := (firstToken (c :: rest)).1, raw := String.ofList (firstToken (c :: rest)).2.1, offset } ::
        tokensFrom fuel (offset + Text.byteLength (firstToken (c :: rest)).2.1) (firstToken (c :: rest)).2.2 := by
  rw [tokensFrom]
  · simp only [hblank, Bool.false_eq_true, if_false]
  · rintro _ rfl
    exact absurd rfl hdash
  · rintro _ _ rfl
    exact absurd rfl hslash

theorem cuts_token {kind : TokenKind} {raw : List Char} (hdash : c ≠ '-') (hslash : c ≠ '/')
    (hblank : isSpace c = false) (hfirst : firstToken (c :: cs) = (kind, raw, rest))
    (hlength : rest.length ≤ cs.length) (h : Cuts rest shapes) :
    Cuts (c :: cs) ((kind, String.ofList raw) :: shapes) := by
  intro fuel offset hfuel
  cases fuel with
  | zero => exact absurd hfuel (Nat.not_succ_le_zero _)
  | succ fuel =>
    have hrest : rest.length ≤ fuel := Nat.le_trans hlength (Nat.le_of_succ_le_succ hfuel)
    rw [tokensFrom_token fuel offset hdash hslash hblank, hfirst, List.map_cons, h fuel _ hrest]
    rfl

theorem firstToken_plain (h : cs.head? ≠ some '\'' ∨ (c ≠ 'x' ∧ c ≠ 'X')) :
    firstToken (c :: cs) = firstPlainToken c cs := by
  cases cs with
  | nil => rfl
  | cons d cs =>
    by_cases hd : d = '\''
    · subst hd
      have hc : ¬ (c = 'x' ∨ c = 'X') := fun hx => by simp_all
      rw [firstToken, if_neg hc]
    · rw [firstToken]
      rintro _ ⟨rfl, _⟩
      exact hd rfl

theorem firstPlainToken_symbol (hc : c ∈ ['(', ')', ',']) (rest : List Char) :
    firstPlainToken c rest = (.symbol, [c], rest) := by
  simp only [List.mem_cons, List.not_mem_nil, or_false] at hc
  rcases hc with rfl | rfl | rfl <;> cases rest <;>
    simp [firstPlainToken, isWordStart, Text.isLetter, Text.isDigit, isDoubleSymbol, isSymbol]

/-- The symbols of a statement that creates a table. -/
theorem cuts_symbol (hc : c ∈ ['(', ')', ',']) (h : Cuts rest shapes) :
    Cuts (c :: rest) (symbol (String.ofList [c]) :: shapes) := by
  have hother : c ≠ '-' ∧ c ≠ '/' ∧ isSpace c = false ∧ c ≠ 'x' ∧ c ≠ 'X' := by
    simp only [List.mem_cons, List.not_mem_nil, or_false] at hc
    rcases hc with rfl | rfl | rfl <;> decide
  obtain ⟨hdash, hslash, hblank, hx⟩ := hother
  exact cuts_token hdash hslash hblank
    ((firstToken_plain (Or.inr hx)).trans (firstPlainToken_symbol hc rest)) (Nat.le_refl _) h

theorem span_word {w : List Char} (hw : ∀ c ∈ w, isWordPart c = true) (hrest : EndsWord rest) :
    (w ++ rest).span isWordPart = (w, rest) := by
  have htail : rest.takeWhile isWordPart = [] ∧ rest.dropWhile isWordPart = rest := by
    cases rest with
    | nil => exact ⟨rfl, rfl⟩
    | cons c rest =>
      have hc := (hrest c rfl).1
      exact ⟨List.takeWhile_cons_of_neg (by simp [hc]), List.dropWhile_cons_of_neg (by simp [hc])⟩
  rw [List.span_eq_takeWhile_dropWhile, List.takeWhile_append_of_pos hw, List.dropWhile_append_of_pos hw, htail.1,
    htail.2, List.append_nil]

theorem isIdentifier_cases {s : String} (h : isIdentifier s = true) :
    ∃ c cs, s.toList = c :: cs ∧ isWordStart c = true ∧ c.toNat < 128 ∧ ∀ d ∈ c :: cs, isWordPart d = true := by
  rw [isIdentifier] at h
  cases hs : s.toList with
  | nil =>
    rw [hs] at h
    cases h
  | cons c cs =>
    rw [hs] at h
    simp only [Bool.and_eq_true, List.all_eq_true, decide_eq_true_iff] at h
    refine ⟨c, cs, rfl, h.1.1, h.1.2, List.forall_mem_cons.mpr ⟨?_, fun d hd => (h.2 d hd).1.1⟩⟩
    rw [isWordPart, h.1.1]
    rfl

-- beyond ASCII a name may start with the byte order mark, which is also a blank
theorem not_isSpace_of_isWordStart (h : isWordStart c = true) (hascii : c.toNat < 128) : isSpace c = false := by
  rw [Bool.eq_false_iff]
  intro hspace
  simp only [isSpace, Bool.or_eq_true, beq_iff_eq] at hspace
  rcases hspace with ((((rfl | rfl) | rfl) | rfl) | hfeed) | hmark
  · exact absurd h (by decide)
  · exact absurd h (by decide)
  · exact absurd h (by decide)
  · exact absurd h (by decide)
  · rw [← Char.ofNat_toNat c, hfeed] at h
    exact absurd h (by decide)
  · omega

/-- A word is cut off where it ends. -/
theorem cuts_word {s : String} (hs : isIdentifier s = true) (hrest : EndsWord rest) (h : Cuts rest shapes) :
    Cuts (s.toList ++ rest) (word s :: shapes) := by
  obtain ⟨c, cs, hcs, hc, hascii, hparts⟩ := isIdentifier_cases hs
  have hdash : c ≠ '-' := by
    rintro rfl
    exact absurd hc (by decide)
  have hslash : c ≠ '/' := by
    rintro rfl
    exact absurd hc (by decide)
  have hspan : (c :: (cs ++ rest)).span isWordPart = (c :: cs, rest) := span_word hparts hrest
  have hplain : firstPlainToken c (cs ++ rest) = (.word, c :: cs, rest) := by
    simp only [firstPlainToken, if_pos hc, hspan]
  have hquote : (cs ++ rest).head? ≠ some '\'' := by
    cases cs with
    | nil => exact fun hhead => (hrest _ hhead).2 rfl
    | cons d cs =>
      have hd : isWordPart d = true := hparts d (by simp)
      rintro ⟨rfl⟩
      exact absurd hd (by decide)
  have hs' : s = String.ofList (c :: cs) := by rw [← hcs, String.ofList_toList]
  rw [hcs, List.cons_append, hs']
  exact cuts_token hdash hslash (not_isSpace_of_isWordStart hc hascii) ((firstToken_plain (Or.inl hquote)).trans hplain)
    (by rw [List.length_append]; omega) h

/-! ## The text of a schema -/

variable {column : Column} {columns : List Column} {schema : Schema}

/-- The tokens of columns up to the closing parenthesis. -/
def columnShapes : List Column → List (TokenKind × String)
  | [] => [symbol ")"]
  | [column] => [word column.name, word column.type.declaration, symbol ")"]
  | column :: rest => word column.name :: word column.type.declaration :: symbol "," :: columnShapes rest

theorem length_le_columnShapes : ∀ columns : List Column, columns.length ≤ (columnShapes columns).length
  | [] => Nat.zero_le _
  | [_] => by simp [columnShapes]
  | column :: next :: rest => by
    have hrest := length_le_columnShapes (next :: rest)
    simp only [columnShapes, List.length_cons] at hrest ⊢
    omega

theorem isIdentifier_declaration (type : ColumnType) : isIdentifier type.declaration = true := by
  cases type <;> decide

theorem cuts_column (hname : isIdentifier column.name = true) (hrest : EndsWord rest) (h : Cuts rest shapes) :
    Cuts ((Schema.columnSql column).toList ++ rest) (word column.name :: word column.type.declaration :: shapes) := by
  have htext : (Schema.columnSql column).toList ++ rest =
      column.name.toList ++ ' ' :: (column.type.declaration.toList ++ rest) := by
    simp [Schema.columnSql]
  rw [htext]
  exact cuts_word hname (endsWord_cons (by decide) _) (cuts_blank (cuts_word (isIdentifier_declaration _) hrest h))

theorem cuts_columns (hne : columns ≠ []) (hnames : ∀ column ∈ columns, isIdentifier column.name = true) :
    Cuts ([',', ' '].intercalate (columns.map fun column => (Schema.columnSql column).toList) ++ [')'])
      (columnShapes columns) := by
  induction columns with
  | nil => exact absurd rfl hne
  | cons column rest ih =>
    rw [List.forall_mem_cons] at hnames
    cases rest with
    | nil =>
      rw [List.map_singleton, List.intercalate_singleton]
      exact cuts_column hnames.1 (endsWord_cons (by decide) _) (cuts_symbol (by decide) cuts_nil)
    | cons next rest =>
      rw [List.map_cons, List.map_cons, List.intercalate_cons_cons, List.append_assoc, List.append_assoc]
      exact cuts_column hnames.1 (endsWord_cons (by decide) _)
        (cuts_symbol (by decide) (cuts_blank (ih (List.cons_ne_nil _ _) hnames.2)))

/-- The statement that creates a table is cut into its words, the table's name and the columns. -/
theorem cuts_createSql (hname : isIdentifier schema.name = true) (hne : schema.columns ≠ [])
    (hnames : ∀ column ∈ schema.columns, isIdentifier column.name = true) :
    Cuts schema.createSql.toList
      (word "CREATE" :: word "TABLE" :: word "IF" :: word "NOT" :: word "EXISTS" :: word schema.name ::
        symbol "(" :: columnShapes schema.columns) := by
  have hwords : "CREATE TABLE IF NOT EXISTS ".toList = "CREATE".toList ++ ' ' :: ("TABLE".toList ++ ' ' ::
      ("IF".toList ++ ' ' :: ("NOT".toList ++ ' ' :: ("EXISTS".toList ++ [' '])))) := by decide
  have hbracket : " (".toList = [' ', '('] := rfl
  have hcomma : ", ".toList = [',', ' '] := rfl
  have hclose : ")".toList = [')'] := rfl
  have htext : schema.createSql = "CREATE TABLE IF NOT EXISTS " ++ (schema.name ++ " (" ++
      String.intercalate ", " (schema.columns.map Schema.columnSql) ++ ")") := rfl
  rw [htext]
  simp only [String.toList_append, String.toList_intercalate, List.map_map, hwords, hbracket, hcomma, hclose,
    List.append_assoc, List.cons_append, List.nil_append]
  have hcolumns := cuts_symbol (c := '(') (by decide) (cuts_columns hne hnames)
  have hhead : ∀ (s : String) {cs : List Char} {shapes : List (TokenKind × String)}, isIdentifier s = true →
      Cuts cs shapes → Cuts (s.toList ++ ' ' :: cs) (word s :: shapes) := fun s _ _ hs h =>
    cuts_word hs (endsWord_cons (by decide) _) (cuts_blank h)
  exact hhead "CREATE" (by decide) (hhead "TABLE" (by decide) (hhead "IF" (by decide) (hhead "NOT" (by decide)
    (hhead "EXISTS" (by decide) (hhead schema.name hname hcolumns)))))

/-! ## Reading the tokens -/

variable {t : Token} {ts : List Token} {s : String}

theorem readName_word (ht : t.shape = word s) (hs : isReserved s = false) : readName (t :: ts) = .ok (s, ts) := by
  obtain ⟨hkind, hraw⟩ := Prod.mk.inj ht
  simp [readName, hkind, hraw, hs]

theorem startsWith_symbol (ht : t.shape = symbol s) (sign : String) : startsWith sign (t :: ts) = (s == sign) := by
  obtain ⟨hkind, hraw⟩ := Prod.mk.inj ht
  simp [startsWith, hkind, hraw]

theorem startsWithWord_word (ht : t.shape = word s) (w : String) :
    startsWithWord w (t :: ts) = (Text.asciiFold s == w) := by
  obtain ⟨hkind, hraw⟩ := Prod.mk.inj ht
  simp [startsWithWord, hkind, hraw]

theorem startsWithWord_symbol (ht : t.shape = symbol s) (w : String) : startsWithWord w (t :: ts) = false := by
  obtain ⟨hkind, hraw⟩ := Prod.mk.inj ht
  simp [startsWithWord, hkind]

theorem readType_word (ht : t.shape = word s) (hs : isReserved s = false) :
    readType (t :: ts) = (s :: (readType ts).1, (readType ts).2) := by
  obtain ⟨hkind, hraw⟩ := Prod.mk.inj ht
  simp [readType, hkind, hraw, hs]

theorem readType_reserved (ht : t.shape = word s) (hs : isReserved s = true) : readType (t :: ts) = ([], t :: ts) := by
  obtain ⟨hkind, hraw⟩ := Prod.mk.inj ht
  simp [readType, hkind, hraw, hs]

theorem readType_symbol (ht : t.shape = symbol s) : readType (t :: ts) = ([], t :: ts) := by
  obtain ⟨hkind, hraw⟩ := Prod.mk.inj ht
  simp [readType, hkind]

theorem skipConstraints_symbol (ht : t.shape = symbol s) (fuel : Nat) : skipConstraints fuel (t :: ts) = t :: ts := by
  cases fuel with
  | zero => rfl
  | succ fuel => simp [skipConstraints, startsWithWord_symbol ht]

theorem skipConstraints_null (ht : t.shape = word "NULL") (fuel : Nat) :
    skipConstraints (fuel + 1) (t :: ts) = skipConstraints fuel ts := by
  have hnull : startsWithWord "null" (t :: ts) = true := (startsWithWord_word ht "null").trans (by decide)
  simp [skipConstraints, hnull]

/-- What stands between a column's name and what ends the column is read as its declared type. -/
theorem readType_declaration {type : ColumnType} {t₁ t₂ : Token} (h₁ : t₁.shape = word type.declaration)
    (h₂ : t₂.shape = symbol s) (hs : s = "," ∨ s = ")") (ts : List Token) :
    ∃ words rest, readType (t₁ :: t₂ :: ts) = (words, rest) ∧ String.intercalate " " words = declaredType type ∧
      completesColumn rest = true ∧ skipConstraints rest.length rest = t₂ :: ts := by
  by_cases hnull : type = .null
  · subst hnull
    have hword : startsWithWord "null" (t₁ :: t₂ :: ts) = true := (startsWithWord_word h₁ "null").trans (by decide)
    refine ⟨[], t₁ :: t₂ :: ts, readType_reserved h₁ (by decide), rfl, ?_, ?_⟩
    · simp [completesColumn, columnWords, hword]
    · rw [List.length_cons, skipConstraints_null h₁, skipConstraints_symbol h₂]
  · have hname : isReserved type.declaration = false ∧ declaredType type = type.declaration := by
      cases type <;> first | exact absurd rfl hnull | exact ⟨by decide, rfl⟩
    refine ⟨[type.declaration], t₂ :: ts, ?_, ?_, ?_, skipConstraints_symbol h₂ _⟩
    · rw [readType_word h₁ hname.1, readType_symbol h₂]
    · rw [hname.2, String.intercalate_singleton]
    · rcases hs with rfl | rfl <;> simp [completesColumn, startsWith_symbol h₂]

theorem isPlain_cases (h : isPlain s = true) : isIdentifier s = true ∧ isReserved s = false := by
  simp only [isPlain, Bool.and_eq_true, Bool.not_eq_true', Bool.or_eq_false_iff] at h
  exact ⟨h.1, h.2.1.1.1⟩

/-- No constraint starts with a word that can be a name. -/
theorem not_constraint (ht : t.shape = word s) (hs : isReserved s = false) (ts : List Token) :
    (constraintWords.any fun w => startsWithWord w (t :: ts)) = false ∧
      startsWithWord "constraint" (t :: ts) = false := by
  have hother : ∀ w ∈ reservedWords, startsWithWord w (t :: ts) = false := by
    intro w hw
    rw [startsWithWord_word ht, beq_eq_false_iff_ne]
    rintro rfl
    rw [isReserved, decide_eq_false_iff_not] at hs
    exact hs hw
  refine ⟨List.any_eq_false.mpr fun w hw => ?_, hother _ (by decide)⟩
  rw [hother w (by revert w; decide)]
  decide

/-- One column is read, and what ends it is where reading goes on. -/
theorem readColumns_column {t₁ t₂ t₃ : Token} (first : Bool) (fuel : Nat) (read : List StoredColumn)
    (hname : isReserved column.name = false) (h₁ : t₁.shape = word column.name)
    (h₂ : t₂.shape = word column.type.declaration) (h₃ : t₃.shape = symbol s) (hs : s = "," ∨ s = ")") :
    readColumns first (fuel + 1) read (t₁ :: t₂ :: t₃ :: ts) =
      if s = "," then readColumns false fuel (storedColumn column :: read) ts
      else if atEnd ts then (storedColumn column :: read, none)
      else (storedColumn column :: read, some (refusal ts)) := by
  obtain ⟨words, rest, htype, hdeclared, hcomplete, hskip⟩ := readType_declaration h₂ h₃ hs ts
  obtain ⟨hconstraint, hnamed⟩ := not_constraint h₁ hname (t₂ :: t₃ :: ts)
  rw [readColumns, hconstraint, hnamed, readName_word h₁ hname]
  simp only [Bool.and_false, Bool.false_eq_true, if_false, htype, hcomplete, hskip, if_true, hdeclared,
    startsWith_symbol h₃, beq_iff_eq, List.tail_cons]
  rcases hs with rfl | rfl <;> rfl

/-- The columns of a schema are read as they are stored, last first. -/
theorem readColumns_columns (hne : columns ≠ []) (hnames : ∀ column ∈ columns, isReserved column.name = false)
    (first : Bool) {fuel : Nat} (hfuel : columns.length ≤ fuel) (read : List StoredColumn)
    (hts : ts.map Token.shape = columnShapes columns) :
    readColumns first fuel read ts = ((columns.map storedColumn).reverse ++ read, none) := by
  induction columns generalizing first fuel read ts with
  | nil => exact absurd rfl hne
  | cons column rest ih =>
    rw [List.forall_mem_cons] at hnames
    rw [List.length_cons] at hfuel
    obtain ⟨fuel, rfl⟩ := Nat.exists_eq_add_one_of_ne_zero (by omega : fuel ≠ 0)
    cases rest with
    | nil =>
      simp only [columnShapes, List.map_eq_cons_iff, List.map_eq_nil_iff] at hts
      obtain ⟨t₁, _, rfl, h₁, t₂, _, rfl, h₂, t₃, _, rfl, h₃, rfl⟩ := hts
      rw [readColumns_column first fuel read hnames.1 h₁ h₂ h₃ (Or.inr rfl)]
      rfl
    | cons next rest =>
      simp only [columnShapes, List.map_eq_cons_iff] at hts
      obtain ⟨t₁, _, rfl, h₁, t₂, _, rfl, h₂, t₃, more, rfl, h₃, hmore⟩ := hts
      rw [readColumns_column first fuel read hnames.1 h₁ h₂ h₃ (Or.inl rfl), if_pos rfl,
        ih (List.cons_ne_nil _ _) hnames.2 false (by omega) _ hmore]
      simp

/-- The statement that creates a table of plain names is read as the columns of its schema. -/
theorem readText_create (hname : isPlain schema.name = true) (hown : isReservedTable schema.name = false)
    (hne : schema.columns ≠ []) (hnames : ∀ column ∈ schema.columns, isPlain column.name = true) :
    (Statement.create schema).readText = .ok (.create schema.name (schema.columns.map storedColumn) none) := by
  have hidentifiers : ∀ column ∈ schema.columns, isIdentifier column.name = true := fun column hcolumn =>
    (isPlain_cases (hnames column hcolumn)).1
  have hunreserved : ∀ column ∈ schema.columns, isReserved column.name = false := fun column hcolumn =>
    (isPlain_cases (hnames column hcolumn)).2
  obtain ⟨hidentifier, hreserved⟩ := isPlain_cases hname
  have hlength : schema.createSql.toList.length ≤ schema.createSql.length + 1 := by
    rw [String.length_toList]
    omega
  have hshapes := cuts_createSql hidentifier hne hidentifiers _ 0 hlength
  simp only [List.map_eq_cons_iff] at hshapes
  obtain ⟨_, _, hts, _, _, _, rfl, _, _, _, rfl, _, _, _, rfl, _, _, _, rfl, _, t₁, _, rfl, h₁, t₂, ts, rfl, h₂,
    hcolumns⟩ := hshapes
  have hread : readCreate (t₁ :: t₂ :: ts) =
      .ok (.create schema.name (schema.columns.map storedColumn) none) := by
    have htable : readTable (t₁ :: t₂ :: ts) = .ok ({ name := schema.name }, t₂ :: ts) := by
      rw [readTable, readName_word h₁ hreserved, ok_bind]
      simp [startsWith_symbol h₂]
    have hfuel : schema.columns.length ≤ ts.length := by
      rw [← List.length_map (f := Token.shape), hcolumns]
      exact length_le_columnShapes schema.columns
    have hopen : readSymbol "(" (t₂ :: ts) = .ok ts := by
      simp [readSymbol, startsWith_symbol h₂]
    rw [readCreate, htable, ok_bind]
    simp only [hopen, ok_bind, hown, readColumns_columns hne hunreserved true hfuel [] hcolumns]
    simp [TableName.isKnown]
  rw [Statement.readText]
  show readCreate ((tokensFrom _ _ _).drop 5) = _
  rw [Statement.text, hts]
  exact hread

end Herbarium.Sql
