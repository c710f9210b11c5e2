import Herbarium.Proofs.Binary64.Integers
import Herbarium.Proofs.Database.Tables
import Herbarium.Proofs.Specimen.Construction

/-!
Numbers in columns of integers.

A number stands for an extended real, `Value.amount?`, whether it is kept as an integer or as a real. A column of
integers keeps a real that is no integer as it is, and makes an integer of one that is; on the way back a real that was
kept after all becomes an integer as far as 64 bits go (`readInteger_real`). So what is read is the number that was
inserted unless that is an integer beyond 64 bits, `Value.IsBeyond`, and then it is the extreme on its side
(`insertRow_integer`).
-/

namespace Herbarium

open Outcome

/-- A column that was declared as one of integers. -/
def StoredColumn.IsInteger (c : StoredColumn) : Prop := c.declared = ColumnType.integer.declaration

theorem StoredColumn.IsInteger.affinity {c : StoredColumn} (h : c.IsInteger) : c.affinity = .integer := by
  rw [StoredColumn.affinity, h]
  decide

theorem StoredColumn.IsInteger.type {c : StoredColumn} (h : c.IsInteger) :
    ColumnType.ofDeclaration c.declared = .integer := by
  rw [h]
  decide

namespace Value

variable {v : Value} {x : Binary64}

/-- The extended real number that a value stands for. -/
noncomputable def amount? : Value → Option EReal
  | int n => some ((n.toInt : ℝ) : EReal)
  | real x => if x.isNaN then none else some x.toEReal
  | null | text _ => none

/-- An integer or a finite real. -/
def IsNumber : Value → Prop
  | int _ => True
  | real x => x.isFinite = true
  | null | text _ => False

/-- An integer that 64 bits do not hold. -/
def IsBeyond (v : Value) : Prop := ∃ k : ℤ, v.amount? = some ((k : ℝ) : EReal) ∧ (k < -2 ^ 63 ∨ 2 ^ 63 ≤ k)

/-- A value that was inserted into a column of integers, as a scan reads it. -/
def readInteger (v : Value) : Value := (v.bind.store .integer).cast .integer

theorem amount?_real (hx : x.isFinite = true) : (real x).amount? = some x.toEReal := by
  rw [amount?, Binary64.not_isNaN_of_isFinite hx]
  rfl

theorem amount?_inj {k m : ℤ} (h : some ((k : ℝ) : EReal) = some ((m : ℝ) : EReal)) : k = m :=
  Int.cast_injective (EReal.coe_injective (Option.some.inj h))

/-- A real that is kept as an integer is the integer it has to be. -/
theorem cast_wholeToInt (x : Binary64) :
    (wholeToInt x).cast .integer = if x.isWhole then int x.toInt64 else real x := by
  rw [wholeToInt]
  split
  · next h =>
    simp only [Bool.and_eq_true, decide_eq_true_eq] at h
    obtain ⟨⟨hwhole, hlow⟩, hhigh⟩ := h
    have hpart : x.toInt64 = Int64.ofInt x.truncate := by
      rw [Binary64.toInt64, if_neg (Int.not_lt.mpr hlow.le), if_neg (Int.not_lt.mpr hhigh.le)]
    rw [if_pos hwhole, hpart]
    rfl
  · rfl

/-- What is read of a real is itself if it is no integer, else its integer part as far as 64 bits go. -/
theorem readInteger_real (hx : x.isFinite = true) :
    (real x).readInteger = if x.isWhole then int x.toInt64 else real x := by
  have hstore : (real x).bind.store .integer = wholeToInt x := by
    rw [bind, Binary64.not_isNaN_of_isFinite hx]
    rfl
  rw [readInteger, hstore, cast_wholeToInt]

/-- An integer is read as the nearest one of 64 bits, any other number as it is. -/
theorem readInteger_cases (hv : v.IsNumber) :
    (∃ (k : ℤ) (n : Int64), v.amount? = some ((k : ℝ) : EReal) ∧ v.readInteger = int n ∧
      n.toInt = max (-2 ^ 63) (min (2 ^ 63 - 1) k)) ∨
    (v.readInteger = v ∧ ∀ k : ℤ, v.amount? ≠ some ((k : ℝ) : EReal)) := by
  cases v with
  | null | text _ => exact hv.elim
  | int n =>
    have hlow : -2 ^ 63 ≤ n.toInt := n.minValue_le_toInt
    have hhigh : n.toInt < 2 ^ 63 := n.toInt_lt
    exact Or.inl ⟨n.toInt, n, rfl, rfl, by omega⟩
  | real x =>
    rw [readInteger_real hv, amount?_real hv]
    by_cases hwhole : x.isWhole = true
    · rw [if_pos hwhole, Binary64.toEReal_of_isWhole hwhole]
      exact Or.inl ⟨x.truncate, x.toInt64, rfl, rfl, x.toInt_toInt64_eq⟩
    · rw [if_neg hwhole]
      refine Or.inr ⟨rfl, fun k hk => hwhole ?_⟩
      exact (Binary64.isWhole_iff hv).mpr ⟨k, Option.some.inj hk⟩

/-- What is read is what was inserted, but for integers that 64 bits do not hold. -/
theorem amount?_readInteger (hv : v.IsNumber) : v.readInteger.amount? = v.amount? ↔ ¬ v.IsBeyond := by
  rcases readInteger_cases hv with ⟨k, n, hk, hread, hn⟩ | ⟨hread, hno⟩
  · have hbeyond : v.IsBeyond ↔ k < -2 ^ 63 ∨ 2 ^ 63 ≤ k := by
      constructor
      · rintro ⟨m, hm, hbounds⟩
        obtain rfl : k = m := amount?_inj (hk.symm.trans hm)
        exact hbounds
      · exact fun hbounds => ⟨k, hk, hbounds⟩
    rw [hread, hk, hbeyond]
    constructor
    · intro h
      have hsame : n.toInt = k := amount?_inj h
      omega
    · intro hbounds
      have hsame : n.toInt = k := by omega
      rw [amount?, hsame]
  · rw [hread]
    exact iff_of_true rfl fun ⟨k, hk, _⟩ => hno k hk

/-- An integer that 64 bits do not hold is read as the extreme on its side. -/
theorem readInteger_beyond (hv : v.IsNumber) {k : ℤ} (hk : v.amount? = some ((k : ℝ) : EReal)) :
    (k < -2 ^ 63 → v.readInteger = int Int64.minValue) ∧ (2 ^ 63 ≤ k → v.readInteger = int Int64.maxValue) := by
  have hmin : Int64.minValue.toInt = -2 ^ 63 := rfl
  have hmax : Int64.maxValue.toInt = 2 ^ 63 - 1 := rfl
  rcases readInteger_cases hv with ⟨m, n, hm, hread, hn⟩ | ⟨_, hno⟩
  · obtain rfl : k = m := amount?_inj (hk.symm.trans hm)
    rw [hread]
    refine ⟨fun hlow => congrArg int (Int64.toInt_inj.mp ?_), fun hhigh => congrArg int (Int64.toInt_inj.mp ?_)⟩
    · omega
    · omega
  · exact absurd hk (hno k)

end Value

namespace Database

variable {db : Database} {name : String} {t : Table} {i : Nat} {c : StoredColumn} {v : Value}

/-- A value given for a column of integers is read back by the scan of its table. -/
theorem received_integer {row : Row} {given : String} (hinteger : c.IsInteger)
    (hgiven : row.find? (fun p => Text.sameFolded c.name p.1) = some (given, v)) :
    (c.received row).cast (.ofDeclaration c.declared) = v.readInteger := by
  rw [StoredColumn.received, hgiven, hinteger.affinity, hinteger.type]
  rfl

/-- A number that is inserted into a column of integers is read back as the same number exactly if it is no integer
that 64 bits do not hold. Such an integer is read back as the least or the greatest of 64 bits. A number for the column
alone is always inserted, if the database can be changed. -/
theorem insertRow_integer (hname : Sql.isPlain name = true) (hf : db.find? name = some t) (ht : t.WellNamed)
    (hc : t.columns[i]? = some c) (hinteger : c.IsInteger) (hv : v.IsNumber) :
    (isCatalogue name = false → db.writable = true → ∃ db', db.insertRow name [(c.name, v)] = .ok (1, db')) ∧
    ∀ row given n db', (row.map Prod.fst).all Sql.isPlain = true →
      row.find? (fun p => Text.sameFolded c.name p.1) = some (given, v) → db.insertRow name row = .ok (n, db') →
      ∃ older new newer w, db.scan name [] = .ok (older ++ newer) ∧ db'.scan name [] = .ok (older ++ new :: newer) ∧
        new.lookup c.name = some w ∧ (w.amount? = v.amount? ↔ ¬ v.IsBeyond) ∧
        ∀ k : ℤ, v.amount? = some ((k : ℝ) : EReal) →
          (k < -2 ^ 63 → w = .int Int64.minValue) ∧ (2 ^ 63 ≤ k → w = .int Int64.maxValue) := by
  refine ⟨fun hown hw => insertRow_single hname hf ht hc hown hw v, fun row given n db' hrow hgiven h => ?_⟩
  have hmem : c ∈ t.columns := List.mem_of_getElem? hc
  obtain ⟨_, older, newer, hbefore, hafter⟩ := insertRow_scan hname hrow hf ht (List.ne_nil_of_mem hmem) h
  refine ⟨older, _, newer, v.readInteger, hbefore, hafter, ?_, Value.amount?_readInteger hv, fun k =>
    Value.readInteger_beyond hv⟩
  rw [Table.lookup_readBack ht hmem, received_integer hinteger hgiven]

/-- A table with a column of integers. -/
def tallies : Schema :=
  { name := "tallies", columns := [{ name := "note", type := .string }, { name := "count", type := .integer }] }

theorem ensure_tallies : empty.ensure tallies = .ok (empty.addSchema tallies) := by
  decide +kernel

theorem find?_tallies : ∃ t, (empty.addSchema tallies).find? "tallies" = some t ∧ t.WellNamed ∧
    t.columns[1]? = some (Sql.storedColumn { name := "count", type := .integer }) := by
  have hfresh : ∀ t ∈ empty.tables, Text.sameFolded t.name tallies.name = false :=
    fun t ht => absurd ht List.not_mem_nil
  obtain ⟨t, hf, ht, hcolumns⟩ := ensure_wellNamed (by decide) (by decide) hfresh ensure_tallies
  refine ⟨t, hf, ht, ?_⟩
  rw [hcolumns]
  rfl

/-- Two and a half among the tallies. -/
theorem insertRow_integer_tallies :
    let half := Value.real (Binary64.ofRatio false 5 2)
    half.IsNumber ∧ ∃ db' older new newer w, (empty.addSchema tallies).insertRow "tallies" [("count", half)] =
      .ok (1, db') ∧ db'.scan "tallies" [] = .ok (older ++ new :: newer) ∧ new.lookup "count" = some w ∧
      w.amount? = half.amount? := by
  intro half
  have hhalf : half.IsNumber := show (Binary64.ofRatio false 5 2).isFinite = true by decide +kernel
  have hbeyond : ¬ half.IsBeyond := by
    rintro ⟨k, hk, _⟩
    rw [Value.amount?_real hhalf, Option.some_inj] at hk
    have hwhole : (Binary64.ofRatio false 5 2).isWhole = true := (Binary64.isWhole_iff hhalf).mpr ⟨k, hk⟩
    exact absurd hwhole (by decide +kernel)
  obtain ⟨t, hf, ht, hc⟩ := find?_tallies
  obtain ⟨haccepted, hread⟩ := insertRow_integer (show Sql.isPlain "tallies" = true by decide) hf ht hc rfl hhalf
  obtain ⟨db', hinsert⟩ := haccepted (by decide) rfl
  obtain ⟨older, new, newer, w, _, hscan, hlookup, hamount, _⟩ :=
    hread _ _ _ _ (by decide) (List.find?_cons_of_pos (sameFolded_iff.mpr rfl)) hinsert
  exact ⟨hhalf, db', older, new, newer, w, hinsert, hscan, hlookup, hamount.mpr hbeyond⟩

/-- Ten to the nineteenth among the tallies is read back as the greatest integer of 64 bits. -/
theorem insertRow_integer_beyond :
    let large := Value.real (Binary64.ofInt (10 ^ 19))
    large.IsNumber ∧ empty.ensure tallies = .ok (empty.addSchema tallies) ∧
      (do
        let (_, db) ← (empty.addSchema tallies).insertRow "tallies" [("count", large)]
        db.scan "tallies" []) = .ok [[("note", .null), ("count", .int Int64.maxValue)]] ∧
      (Value.int Int64.maxValue).amount? ≠ large.amount? := by
  intro large
  have hlarge : (Binary64.ofInt (10 ^ 19)).isFinite = true := by decide +kernel
  refine ⟨hlarge, ensure_tallies, by decide +kernel, fun hsame => ?_⟩
  have hamount : large.amount? = some (((10 ^ 19 : ℤ) : ℝ) : EReal) := by
    rw [Value.amount?_real hlarge, (Binary64.toEReal_eq_int_iff hlarge (10 ^ 19)).mpr (by decide +kernel)]
  have hequal := Value.amount?_inj (hsame.trans hamount)
  exact absurd hequal (by decide)

end Database

end Herbarium
