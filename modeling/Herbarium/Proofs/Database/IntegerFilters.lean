import Herbarium.Proofs.Database.IntegerColumns
import Herbarium.Proofs.Filter.Comparisons

/-!
Filters on columns of integers.

The text of an integer in a filter is read as the number nearest to the integer, and a column of integers is compared
with that number exactly (`holds_integer`). So an equality shows and deletes the rows whose integer is this number
(`equality_selects`): these are the rows that have the integer of the filter if a number stands for it, as one does for
integers up to 2⁵³ in magnitude, and rows of another integer, or none, if there is no such number (`equality_integer`).
-/

namespace Herbarium

open Outcome

/-- Whether what a row has under a name stands for a number. -/
noncomputable def Row.standsFor (name : String) (q : EReal) (row : Row) : Bool :=
  decide ((row.lookup name).bind Value.amount? = some q)

/-- Whether a row has an integer under a name. -/
def Row.hasInteger (name : String) (n : Int64) (row : Row) : Bool := decide (row.lookup name = some (.int n))

theorem Row.standsFor_iff {row : Row} {name : String} {q : EReal} {m : Int64} (h : row.lookup name = some (.int m)) :
    row.standsFor name q = true ↔ ((m.toInt : ℝ) : EReal) = q := by
  rw [standsFor, h, Option.bind_some, Value.amount?, decide_eq_true_iff, Option.some_inj]

theorem Row.hasInteger_iff {row : Row} {name : String} {n m : Int64} (h : row.lookup name = some (.int m)) :
    row.hasInteger name n = true ↔ m = n := by
  rw [hasInteger, h, decide_eq_true_iff, Option.some_inj, Value.int.injEq]

/-- Whether some number stands for an integer. -/
def Binary64.Represents (n : Int64) : Prop := ∃ x : Binary64, x.isFinite = true ∧ x.toEReal = ((n.toInt : ℝ) : EReal)

/-- The number that the text of an integer is read as. -/
def Binary64.nearestTo (n : Int64) : Binary64 := .ofInt n.toInt

namespace Binary64

variable {n : Int64}

theorem natAbs_toInt_le (n : Int64) : n.toInt.natAbs ≤ 2 ^ 63 := by
  have hlow : -2 ^ 63 ≤ n.toInt := n.minValue_le_toInt
  have hhigh : n.toInt < 2 ^ 63 := n.toInt_lt
  omega

theorem isFinite_nearestTo (n : Int64) : (nearestTo n).isFinite = true := ofInt_isFinite (natAbs_toInt_le n)

theorem represents_iff : Represents n ↔ (nearestTo n).toEReal = ((n.toInt : ℝ) : EReal) :=
  (ofInt_exact_iff (natAbs_toInt_le n)).symm

theorem represents_of_le (h : n.toInt.natAbs ≤ 2 ^ 53) : Represents n := represents_iff.mpr (ofInt_exact_of_le h)

end Binary64

namespace Comparison

variable {x : Binary64}

/-- Against an integer a number that narrowed is compared exactly. -/
theorem holds_integer (m : Int64) (hx : x.isFinite = true) :
    equal.holds .integer (.int m) (Value.narrow x).bind = true ↔ ((m.toInt : ℝ) : EReal) = x.toEReal := by
  have hsteps : ((m.toInt : ℝ) : EReal) = x.toEReal ↔ m.toInt * Binary64.unitsPerOne = x.signedUnits := by
    rw [eq_comm, Binary64.toEReal_eq_int_iff hx, eq_comm]
  rw [hsteps]
  rcases Value.narrow_cases x with hreal | ⟨k, hint, hk⟩
  · have horder : equal.holds .integer (.int m) (Value.narrow x).bind =
        equal.admits (Binary64.compareInt m.toInt x) := by
      rw [hreal, Value.bind, Binary64.not_isNaN_of_isFinite hx]
      rfl
    rw [horder, admits, beq_iff_eq, Binary64.compareInt, Int.compare_eq_eq]
  · have horder : equal.holds .integer (.int m) (Value.narrow x).bind = equal.admits (compare m.toInt k.toInt) := by
      rw [hint]
      rfl
    have hpos : (Binary64.unitsPerOne : ℤ) ≠ 0 := by
      rw [Int.natCast_ne_zero]
      exact Decimal.unitsPerOne_pos.ne'
    rw [horder, admits, beq_iff_eq, Int.compare_eq_eq, ← hk, mul_left_inj' hpos]

end Comparison

namespace Value

theorem trim_integerText (n : ℤ) : Text.trim (Decimal.integerText n) = Decimal.integerText n := by
  have hdigit : ∀ ch ∈ Decimal.digits n.natAbs, Text.isBlank ch = false := by
    intro ch hch
    apply Filter.isBlank_of_name
    rw [Char.isAlphanum, Decimal.isDigit_of_mem_digits hch, Bool.or_true]
    exact Or.inl rfl
  have hchars : ∀ ch ∈ (Decimal.integerText n).toList, Text.isBlank ch = false := by
    rw [Decimal.toList_integerText]
    split
    · exact List.forall_mem_cons.mpr ⟨by decide, hdigit⟩
    · exact hdigit
  rw [Text.trim, Text.trimChars, Text.trimMatches_eq_self hchars, String.ofList_toList]

theorem integerText_ne_empty (n : ℤ) : Decimal.integerText n ≠ "" := by
  intro hempty
  have hchars := Decimal.toList_integerText n
  rw [hempty] at hchars
  split at hchars
  · cases hchars
  · exact Decimal.digits_ne_nil _ hchars.symm

/-- The text of an integer becomes the number nearest to it. -/
theorem coerce_integerText (n : Int64) :
    coerce (Decimal.integerText n.toInt) = narrow (Binary64.nearestTo n) := by
  rw [coerce, trim_integerText, Binary64.read?_integerText]
  rfl

end Value

namespace Database

variable {db : Database} {name : String} {t : Table} {i : Nat} {c : StoredColumn}

/-- The filter that asks whether a column has an integer. -/
def equality (column : String) (n : Int64) : Filter :=
  { column, operator := .equal, value := Decimal.integerText n.toInt }

theorem parse_equality (hplain : Sql.isPlain c.name = true) (n : Int64) :
    Filter.parse (c.name ++ "=" ++ Decimal.integerText n.toInt) = .ok (equality c.name n) := by
  have htrim := Value.trim_integerText n.toInt
  have hne : Text.trim (Decimal.integerText n.toInt) ≠ "" := by
    rw [htrim]
    exact Value.integerText_ne_empty n.toInt
  have hparse := Filter.parse_comparison (Sql.isColumn_of_plain hplain) .equal hne
  rw [htrim] at hparse
  exact hparse

theorem answers_equality (ht : t.WellNamed) (hc : t.columns[i]? = some c) (n : Int64) :
    t.Answers ([equality c.name n].map Clause.condition) where
  admitted := {
    words := List.forall_mem_singleton.mpr (Sql.isOperandWord_of_plain (ht.plain c (List.mem_of_getElem? hc)))
    parameters := show 1 ≤ 32766 by decide
    height := Sql.height_le (Clause.condition (equality c.name n)) }
  known := by
    refine List.forall_mem_singleton.mpr ?_
    rw [Clause.column_condition, equality, Table.operand?_column ht hc]
    rfl

/-- A row that has an integer in the column passes the filter exactly if the integer is the number that the filter's
text is read as. -/
theorem passes_equality (ht : t.WellNamed) (hc : t.columns[i]? = some c) (hinteger : c.IsInteger) {r : StoredRow}
    {m : Int64} (hcell : r.cells[i]? = some (.int m)) (n : Int64) :
    t.passesAll [equality c.name n] r = true ↔ ((m.toInt : ℝ) : EReal) = (Binary64.nearestTo n).toEReal := by
  have htest : Clause.testOf (equality c.name n) = .compare .equal (Value.narrow (Binary64.nearestTo n)) := by
    rw [← Value.coerce_integerText]
    rfl
  have hpasses : t.passesAll [equality c.name n] r =
      Comparison.equal.holds c.affinity ((r.cells[i]?).getD .null) (Value.narrow (Binary64.nearestTo n)).bind := by
    rw [Table.passesAll, List.all_cons, List.all_nil, Bool.and_true, Table.passes, Clause.column_condition, equality,
      Table.operand?_column ht hc, ← equality, Clause.condition, htest]
    rfl
  rw [hpasses, hcell, hinteger.affinity]
  exact Comparison.holds_integer m (Binary64.isFinite_nearestTo n)

/-- A filter with the text of an integer selects the rows of a kind, if these are the ones whose integer is the number
that the text is read as. -/
theorem equality_selects (hname : Sql.isPlain name = true) (hf : db.find? name = some t) (ht : t.WellNamed)
    (hc : t.columns[i]? = some c) (hinteger : c.IsInteger)
    (hcells : ∀ r ∈ t.rows, ∃ m : Int64, r.cells[i]? = some (.int m)) {n : Int64} {kind : Row → Bool}
    (hkind : ∀ (row : Row) (m : Int64), row.lookup c.name = some (.int m) →
      (kind row = true ↔ ((m.toInt : ℝ) : EReal) = (Binary64.nearestTo n).toEReal)) :
    db.Selects name [equality c.name n] kind := by
  have hmem : c ∈ t.columns := List.mem_of_getElem? hc
  refine selects_of_passes hname hf ht (List.ne_nil_of_mem hmem) (List.cons_ne_nil _ _) ?_ (answers_equality ht hc n) ?_
  · exact List.forall_mem_singleton.mpr (Sql.isColumn_of_plain (ht.plain c hmem))
  · intro r hr
    obtain ⟨m, hcell⟩ := hcells r hr
    have hlookup : (t.readCells r).lookup c.name = some (.int m) := by
      rw [Table.lookup_readCells ht hc, hcell, hinteger.type]
      rfl
    rw [Bool.eq_iff_iff, passes_equality ht hc hinteger hcell, hkind _ m hlookup]

/-- The text of an integer in an equality stands for the number nearest to the integer, and the filter shows and deletes
the rows that have this number in the column. They are the rows that have the integer where a number stands for it, as
one does for the integers up to 2⁵³ in magnitude; where none does, no row that has the integer is among them. -/
theorem equality_integer (hname : Sql.isPlain name = true) (hf : db.find? name = some t) (ht : t.WellNamed)
    (hc : t.columns[i]? = some c) (hinteger : c.IsInteger)
    (hcells : ∀ r ∈ t.rows, ∃ m : Int64, r.cells[i]? = some (.int m)) (n : Int64) :
    ∃ f, Filter.parse (c.name ++ "=" ++ Decimal.integerText n.toInt) = .ok f ∧
      db.Selects name [f] (Row.standsFor c.name (Binary64.nearestTo n).toEReal) ∧
      (n.toInt.natAbs ≤ 2 ^ 53 → Binary64.Represents n) ∧
      (Binary64.Represents n → db.Selects name [f] (Row.hasInteger c.name n)) ∧
      (¬ Binary64.Represents n → ∀ row : Row, row.hasInteger c.name n = true →
        row.standsFor c.name (Binary64.nearestTo n).toEReal = false) := by
  have hplain : Sql.isPlain c.name = true := ht.plain c (List.mem_of_getElem? hc)
  refine ⟨equality c.name n, parse_equality hplain n, ?_, Binary64.represents_of_le, fun hn => ?_,
    fun hn row hrow => ?_⟩
  · exact equality_selects hname hf ht hc hinteger hcells fun row m => row.standsFor_iff
  · refine equality_selects hname hf ht hc hinteger hcells fun row m hlookup => ?_
    rw [Row.hasInteger_iff hlookup, Binary64.represents_iff.mp hn, EReal.coe_eq_coe_iff, Int.cast_inj, Int64.toInt_inj]
  · rw [Bool.eq_false_iff]
    intro hsame
    have hlookup : row.lookup c.name = some (.int n) := of_decide_eq_true hrow
    exact hn (Binary64.represents_iff.mpr ((row.standsFor_iff hlookup).mp hsame).symm)

/-- Two neighbouring counts, of which a number stands for the first only. -/
def neighbours : Table :=
  { name := "tallies", definition := tallies.definition, columns := tallies.columns.map Sql.storedColumn,
    rows := [{ number := 2, cells := [.null, .int 9007199254740993] },
             { number := 1, cells := [.null, .int 9007199254740992] }] }

/-- The first count is found and deleted alone. -/
theorem equality_integer_first :
    ∃ f, Filter.parse "count=9007199254740992" = .ok f ∧
      Selects { tables := [neighbours] } "tallies" [f] (Row.hasInteger "count" 9007199254740992) := by
  have hnames : neighbours.WellNamed := ⟨by unfold Table.HasPlainColumns; decide, by decide⟩
  have hcells : ∀ r ∈ neighbours.rows, ∃ m : Int64, r.cells[1]? = some (.int m) := by
    intro r hr
    rcases List.mem_pair.mp hr with rfl | rfl
    · exact ⟨_, rfl⟩
    · exact ⟨_, rfl⟩
  have htext : "count=9007199254740992" = "count" ++ "=" ++ Decimal.integerText (9007199254740992 : Int64).toInt := by
    decide +kernel
  obtain ⟨f, hparse, _, hsmall, hexact, _⟩ := @equality_integer { tables := [neighbours] } "tallies" neighbours 1
    (Sql.storedColumn { name := "count", type := .integer }) (by decide) rfl hnames rfl rfl hcells 9007199254740992
  exact ⟨f, htext ▸ hparse, hexact (hsmall (by decide))⟩

/-- The second count is not found by its text, but the first one is, and it is deleted in its place. -/
theorem equality_integer_second :
    (do
      let (_, db) ← (empty.addSchema tallies).insertRow "tallies" [("count", .int 9007199254740992)]
      let (_, db) ← db.insertRow "tallies" [("count", .int 9007199254740993)]
      return db) = .ok { tables := [neighbours] } ∧
    Filter.parse "count=9007199254740993" = .ok (equality "count" 9007199254740993) ∧
    ({ tables := [neighbours] } : Database).scan "tallies" [] =
      .ok [[("note", .null), ("count", .int 9007199254740992)], [("note", .null), ("count", .int 9007199254740993)]] ∧
    ({ tables := [neighbours] } : Database).scan "tallies" [equality "count" 9007199254740993] =
      .ok [[("note", .null), ("count", .int 9007199254740992)]] ∧
    (do
      let (_, db) ← ({ tables := [neighbours] } : Database).delete "tallies" [equality "count" 9007199254740993]
      db.scan "tallies" []) = .ok [[("note", .null), ("count", .int 9007199254740993)]] :=
  ⟨by decide +kernel, by decide +kernel, by decide +kernel, by decide +kernel, by decide +kernel⟩

end Database

end Herbarium
