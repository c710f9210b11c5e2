import Herbarium.Proofs.Binary64.Integers

/-!
Averages of two numbers.

A sum of finite numbers is rounded, and so is its half. Rounding keeps the order of what is rounded
(`nearestRank_mono`) and changes neither the double nor the half of a double, so half of a sum lies between the numbers
that were added (`half_add_between`), in the order that tells the zeros apart. All this holds as long as the sum is
finite, that is, the exact sum stays below the midpoint above the largest number (`isFinite_add_iff_toReal`). Any other
sum is an infinity, and so is its half (`half_add_overflow`).
-/

namespace Herbarium.Binary64

variable {rank num den : Nat} {x y : Binary64}

/-! ## Rounding keeps the order -/

theorem nearestRank_mono {num' den' : Nat} (hden : 0 < den) (hden' : 0 < den') (h : num * den' ≤ num' * den) :
    nearestRank num den ≤ nearestRank num' den' := by
  by_contra hlt
  rw [not_le] at hlt
  have hlow := (contains_bounds (nearestRank_contains num hden)).1
  have hhigh := (contains_bounds (nearestRank_contains num' hden')).2
  -- a smaller rank ends below the other one begins, so both quotients are the midpoint between them
  have hfirst : units (nearestRank num' den') ≤ units (nearestRank num den - 1) := units_strictMono.monotone (by omega)
  have hsecond : units (nearestRank num' den' + 1) ≤ units (nearestRank num den) := units_strictMono.monotone hlt
  have hsame : num' * den ≤ num * den' := by
    have htwice : 2 * (num' * den) ≤ 2 * (num * den') := by
      calc 2 * (num' * den) = 2 * num' * den := by ring
        _ ≤ (units (nearestRank num' den') + units (nearestRank num' den' + 1)) * den' * den :=
          Nat.mul_le_mul_right den hhigh
        _ ≤ (units (nearestRank num den - 1) + units (nearestRank num den)) * den' * den :=
          Nat.mul_le_mul_right den (Nat.mul_le_mul_right den' (Nat.add_le_add hfirst hsecond))
        _ = (units (nearestRank num den - 1) + units (nearestRank num den)) * den * den' := by ring
        _ ≤ 2 * num * den' := Nat.mul_le_mul_right den' hlow
        _ = 2 * (num * den') := by ring
    omega
  exact hlt.ne' (nearestRank_congr hden hden' (le_antisymm h hsame))

/-- Twice the steps of a rank are those of another one. -/
theorem exists_units_double (rank : Nat) : ∃ double, units double = 2 * units rank := by
  rcases Nat.lt_or_ge rank binade with hsmall | hlarge
  · refine ⟨0 * binade + 2 * rank, ?_⟩
    rw [units_shifted 0 (by omega) (Or.inl rfl), Nat.pow_zero, Nat.mul_one, units, if_pos hsmall]
  · obtain ⟨shift, mantissa, rfl, hlow, hhigh⟩ := exists_shifted hlarge
    refine ⟨(shift + 1) * binade + mantissa, ?_⟩
    rw [units_shifted (shift + 1) hhigh.le (Or.inr hlow), units_shifted shift hhigh.le (Or.inr hlow), Nat.pow_succ]
    ring

/-! ## Half of a rounded sum -/

/-- The rank of half the number nearest to a count of steps. -/
def halfRank (n : Nat) : Nat := nearestRank (units (nearestRank n 1)) 2

theorem halfRank_mono {n n' : Nat} (h : n ≤ n') : halfRank n ≤ halfRank n' := by
  have hrank : nearestRank n 1 ≤ nearestRank n' 1 := nearestRank_mono Nat.one_pos Nat.one_pos (Nat.mul_le_mul_right 1 h)
  exact nearestRank_mono Nat.two_pos Nat.two_pos (Nat.mul_le_mul_right 2 (units_strictMono.monotone hrank))

/-- Neither rounding changes the double of a number. -/
theorem halfRank_double (rank : Nat) : halfRank (2 * units rank) = rank := by
  obtain ⟨double, hdouble⟩ := exists_units_double rank
  have hscale : nearestRank (units rank * 2) (1 * 2) = nearestRank (units rank) 1 :=
    nearestRank_scale Nat.one_pos Nat.two_pos
  rw [halfRank, ← hdouble, nearestRank_units, hdouble, Nat.mul_comm, ← Nat.one_mul 2, hscale, nearestRank_units]

theorem le_halfRank {n : Nat} (h : 2 * units rank ≤ n) : rank ≤ halfRank n :=
  (halfRank_double rank).ge.trans (halfRank_mono h)

theorem halfRank_le {n : Nat} (h : n ≤ 2 * units rank) : halfRank n ≤ rank :=
  (halfRank_mono h).trans (halfRank_double rank).le

/-! ## Sums -/

/-- The largest number of a sign. -/
def largest (negative : Bool) : Binary64 := ofRank negative (infinityRank - 1)

/-- The steps from which on a sum is rounded to an infinity, twice: the midpoint above the largest number. -/
def overflow : Nat := units (infinityRank - 1) + units infinityRank

theorem nearestRank_lt_infinityRank_iff {n : Nat} : nearestRank n 1 < infinityRank ↔ 2 * n < overflow := by
  have hcontains := nearestRank_contains n Nat.one_pos
  obtain ⟨hlow, hhigh⟩ := contains_bounds hcontains
  rw [Nat.mul_one] at hlow hhigh
  unfold overflow
  constructor
  · intro hlt
    have hodd : infinityRank - 1 = 2 * (infinityRank / 2 - 1) + 1 := by decide
    have hupper : units (nearestRank n 1 + 1) ≤ units infinityRank := units_strictMono.monotone hlt
    rcases Nat.lt_or_eq_of_le (Nat.le_sub_one_of_lt hlt) with hbelow | hlast
    · have hlower : units (nearestRank n 1) < units (infinityRank - 1) := units_strictMono hbelow
      omega
    -- the largest number is odd, so the midpoint above it is not rounded to it
    · rw [contains_ofRank, if_neg (by omega), Nat.mul_one, Nat.mul_one] at hcontains
      have hlower : units (nearestRank n 1) ≤ units (infinityRank - 1) := units_strictMono.monotone hlast.le
      omega
  · intro hlt
    by_contra hge
    have hlower : units (infinityRank - 1) ≤ units (nearestRank n 1 - 1) := units_strictMono.monotone (by omega)
    have hupper : units infinityRank ≤ units (nearestRank n 1) := units_strictMono.monotone (by omega)
    omega

theorem isFinite_iff : x.isFinite = true ↔ x.rank < infinityRank := decide_eq_true_iff

theorem add_of_isFinite (hx : x.isFinite = true) (hy : y.isFinite = true) :
    x.add y = ofSignedUnits (x.signedUnits + y.signedUnits) (x.negative && y.negative) := by
  have hkind : ∀ {z : Binary64}, z.isFinite = true → z.isNaN = false ∧ z.isInfinite = false := by
    intro z hz
    rw [isFinite_iff] at hz
    exact ⟨decide_eq_false (by omega), beq_eq_false_iff_ne.mpr (by omega)⟩
  obtain ⟨hxnan, hxinfinite⟩ := hkind hx
  obtain ⟨hynan, hyinfinite⟩ := hkind hy
  simp only [add, hxnan, hynan, hxinfinite, hyinfinite, Bool.false_eq_true, if_false]

theorem isFinite_add_iff (hx : x.isFinite = true) (hy : y.isFinite = true) :
    (x.add y).isFinite = true ↔ 2 * (x.signedUnits + y.signedUnits).natAbs < overflow := by
  rw [add_of_isFinite hx hy, isFinite_iff, ← nearestRank_lt_infinityRank_iff, ofSignedUnits, ofRank]
  dsimp only
  omega

/-- The sign of a sum: an exact zero is negative only as a sum of negative numbers. -/
def sumSign (x y : Binary64) : Bool :=
  if x.signedUnits + y.signedUnits = 0 then x.negative && y.negative else decide (x.signedUnits + y.signedUnits < 0)

theorem signedUnits_of_nonnegative (h : x.negative = false) : x.signedUnits = units x.rank := by
  rw [signedUnits, h, if_neg (by decide)]

theorem signedUnits_of_negative (h : x.negative = true) : x.signedUnits = -(units x.rank : ℤ) := by
  rw [signedUnits, h, if_pos rfl]

theorem sumSign_of_neg (h : x.signedUnits + y.signedUnits < 0) : sumSign x y = true := by
  rw [sumSign, if_neg h.ne]
  exact decide_eq_true h

theorem sumSign_of_negative (hx : x.negative = true) (hy : y.negative = true) : sumSign x y = true := by
  by_cases hzero : x.signedUnits + y.signedUnits = 0
  · rw [sumSign, if_pos hzero, hx, hy]
    rfl
  · rw [signedUnits_of_negative hx, signedUnits_of_negative hy] at hzero
    apply sumSign_of_neg
    rw [signedUnits_of_negative hx, signedUnits_of_negative hy]
    omega

theorem sumSign_of_nonnegative (hx : x.negative = false) (h : 0 ≤ x.signedUnits + y.signedUnits) :
    sumSign x y = false := by
  unfold sumSign
  split
  · rw [hx, Bool.false_and]
  · exact decide_eq_false (not_lt.mpr h)

/-- Negative numbers come before the others, by falling magnitude, and the others by rising magnitude. -/
theorem totalLe_iff_rank : x.totalLe y = true ↔
    (x.negative = true ∧ y.negative = true ∧ y.rank ≤ x.rank) ∨ (x.negative = true ∧ y.negative = false) ∨
      (x.negative = false ∧ y.negative = false ∧ x.rank ≤ y.rank) := by
  rw [totalLe, decide_eq_true_iff]
  cases hx : x.negative <;> cases hy : y.negative <;>
    simp only [orderKey, hx, hy, if_true, if_false, Bool.false_eq_true, true_and, false_and, or_false, false_or,
      reduceCtorEq, and_false, and_true, iff_true, iff_false] <;>
    omega

theorem half_add (hx : x.isFinite = true) (hy : y.isFinite = true) (hsum : (x.add y).isFinite = true) :
    (x.add y).half = ofRank (sumSign x y) (halfRank (x.signedUnits + y.signedUnits).natAbs) := by
  have hrank := (isFinite_add_iff hx hy).mp hsum
  rw [← nearestRank_lt_infinityRank_iff] at hrank
  rw [half, if_pos hsum, add_of_isFinite hx hy]
  simp only [ofSignedUnits, ofRank, Nat.min_eq_left hrank.le]
  rfl

/-- Half of a finite sum, by its sign and its rank. -/
theorem half_add_rank (hx : x.isFinite = true) (hy : y.isFinite = true) (hsum : (x.add y).isFinite = true)
    {n : Nat} (hn : (x.signedUnits + y.signedUnits).natAbs = n) (hrank : halfRank n < infinityRank) :
    (x.add y).half.negative = sumSign x y ∧ (x.add y).half.rank = halfRank n := by
  rw [half_add hx hy hsum, hn]
  exact ⟨rfl, Nat.min_eq_left hrank.le⟩

/-- Half of a finite sum is not before the smaller and not behind the greater number. -/
theorem half_add_between (hx : x.isFinite = true) (hy : y.isFinite = true) (hxy : x.totalLe y = true)
    (hsum : (y.add x).isFinite = true) :
    x.totalLe (y.add x).half = true ∧ (y.add x).half.totalLe y = true := by
  obtain ⟨n, hn⟩ : ∃ n, (y.signedUnits + x.signedUnits).natAbs = n := ⟨_, rfl⟩
  have hhalf : ∀ {z : Binary64}, z.isFinite = true → halfRank n ≤ z.rank →
      (y.add x).half.negative = sumSign y x ∧ (y.add x).half.rank = halfRank n := fun hz hle =>
    half_add_rank hy hx hsum hn (hle.trans_lt (isFinite_iff.mp hz))
  rw [totalLe_iff_rank, totalLe_iff_rank]
  rcases totalLe_iff_rank.mp hxy with ⟨hxneg, hyneg, hle⟩ | ⟨hxneg, hyneg⟩ | ⟨hxneg, hyneg, hle⟩
  · have hunits : units y.rank ≤ units x.rank := units_strictMono.monotone hle
    have hxsteps := signedUnits_of_negative hxneg
    have hysteps := signedUnits_of_negative hyneg
    have hlow : y.rank ≤ halfRank n := le_halfRank (by omega)
    have hhigh : halfRank n ≤ x.rank := halfRank_le (by omega)
    obtain ⟨hnegative, hrank⟩ := hhalf hx hhigh
    rw [sumSign_of_negative hyneg hxneg] at hnegative
    exact ⟨Or.inl ⟨hxneg, hnegative, hrank.trans_le hhigh⟩, Or.inl ⟨hnegative, hyneg, hlow.trans hrank.ge⟩⟩
  -- the sum of numbers of different signs has the sign of the one farther from zero
  · have hxsteps := signedUnits_of_negative hxneg
    have hysteps := signedUnits_of_nonnegative hyneg
    rcases lt_or_ge (y.signedUnits + x.signedUnits) 0 with hneg | hnonneg
    · have hhigh : halfRank n ≤ x.rank := halfRank_le (by omega)
      obtain ⟨hnegative, hrank⟩ := hhalf hx hhigh
      rw [sumSign_of_neg hneg] at hnegative
      exact ⟨Or.inl ⟨hxneg, hnegative, hrank.trans_le hhigh⟩, Or.inr (Or.inl ⟨hnegative, hyneg⟩)⟩
    · have hhigh : halfRank n ≤ y.rank := halfRank_le (by omega)
      obtain ⟨hnegative, hrank⟩ := hhalf hy hhigh
      rw [sumSign_of_nonnegative hyneg hnonneg] at hnegative
      exact ⟨Or.inr (Or.inl ⟨hxneg, hnegative⟩), Or.inr (Or.inr ⟨hnegative, hyneg, hrank.trans_le hhigh⟩)⟩
  · have hunits : units x.rank ≤ units y.rank := units_strictMono.monotone hle
    have hxsteps := signedUnits_of_nonnegative hxneg
    have hysteps := signedUnits_of_nonnegative hyneg
    have hlow : x.rank ≤ halfRank n := le_halfRank (by omega)
    have hhigh : halfRank n ≤ y.rank := halfRank_le (by omega)
    obtain ⟨hnegative, hrank⟩ := hhalf hy hhigh
    rw [sumSign_of_nonnegative hyneg (by omega)] at hnegative
    exact ⟨Or.inr (Or.inr ⟨hxneg, hnegative, hlow.trans hrank.ge⟩),
      Or.inr (Or.inr ⟨hnegative, hyneg, hrank.trans_le hhigh⟩)⟩

/-- What lies between finite numbers is finite. -/
theorem isFinite_of_between {z : Binary64} (hx : x.isFinite = true) (hy : y.isFinite = true)
    (hxz : x.totalLe z = true) (hzy : z.totalLe y = true) : z.isFinite = true := by
  rw [isFinite_iff] at hx hy ⊢
  rw [totalLe_iff_rank] at hxz hzy
  cases hz : z.negative with
  | true =>
    have hle : x.negative = true ∧ z.rank ≤ x.rank := by simpa [hz] using hxz
    exact hle.2.trans_lt hx
  | false =>
    have hle : y.negative = false ∧ z.rank ≤ y.rank := by simpa [hz] using hzy
    exact hle.2.trans_lt hy

/-- A sum that is not finite is one of numbers of one sign, and half of it is the infinity of that sign. -/
theorem half_add_overflow (hx : x.isFinite = true) (hy : y.isFinite = true) (hsum : (x.add y).isFinite = false) :
    x.negative = y.negative ∧ (x.add y).half = infinity x.negative := by
  have hlarge : overflow ≤ 2 * (x.signedUnits + y.signedUnits).natAbs := by
    rw [← not_lt, ← isFinite_add_iff hx hy, hsum]
    decide
  have hlimit : ∀ {z : Binary64}, z.isFinite = true → 2 * units z.rank < overflow := by
    intro z hz
    have hunits : units z.rank ≤ units (infinityRank - 1) :=
      units_strictMono.monotone (Nat.le_sub_one_of_lt (isFinite_iff.mp hz))
    have hlast : units (infinityRank - 1) < units infinityRank := units_strictMono (by decide)
    unfold overflow
    omega
  have hxlimit := hlimit hx
  have hylimit := hlimit hy
  have hinfinite : infinityRank ≤ nearestRank (x.signedUnits + y.signedUnits).natAbs 1 := by
    rw [← not_lt, nearestRank_lt_infinityRank_iff]
    exact not_lt.mpr hlarge
  have hadd : x.add y = infinity (sumSign x y) := by
    rw [add_of_isFinite hx hy, ofSignedUnits, ofRank, infinity]
    congr 1
    exact Nat.min_eq_right hinfinite
  have hhalf : (x.add y).half = x.add y := by rw [half, if_neg (by rw [hsum]; decide)]
  rw [hhalf, hadd]
  cases hxneg : x.negative with
  | false =>
    have hxsteps := signedUnits_of_nonnegative hxneg
    cases hyneg : y.negative with
    | false =>
      have hysteps := signedUnits_of_nonnegative hyneg
      exact ⟨rfl, by rw [sumSign_of_nonnegative hxneg (by omega)]⟩
    | true =>
      have hysteps := signedUnits_of_negative hyneg
      omega
  | true =>
    have hxsteps := signedUnits_of_negative hxneg
    cases hyneg : y.negative with
    | true => exact ⟨rfl, by rw [sumSign_of_negative hxneg hyneg]⟩
    | false =>
      have hysteps := signedUnits_of_nonnegative hyneg
      omega

/-! ## The real numbers behind them -/

/-- The real number that a finite number stands for. -/
noncomputable def toReal (x : Binary64) : ℝ := x.toEReal.toReal

theorem toReal_eq (hx : x.isFinite = true) : x.toReal = x.signedUnits * step := by
  have hrank := isFinite_iff.mp hx
  have hnan : x.isNaN = false := decide_eq_false (not_lt.mpr hrank.le)
  obtain ⟨hlow, hhigh⟩ := signedUnits_finite hrank
  rw [toReal, toEReal_eq_ofSteps hnan, ofSteps, if_neg (not_le.mpr hlow), if_neg (not_le.mpr hhigh), EReal.toReal_coe]

theorem signedUnits_mono (h : x.totalLe y = true) : x.signedUnits ≤ y.signedUnits := by
  rcases totalLe_iff_rank.mp h with ⟨hx, hy, hle⟩ | ⟨hx, hy⟩ | ⟨hx, hy, hle⟩
  · have hunits : units y.rank ≤ units x.rank := units_strictMono.monotone hle
    rw [signedUnits_of_negative hx, signedUnits_of_negative hy]
    omega
  · rw [signedUnits_of_negative hx, signedUnits_of_nonnegative hy]
    omega
  · have hunits : units x.rank ≤ units y.rank := units_strictMono.monotone hle
    rw [signedUnits_of_nonnegative hx, signedUnits_of_nonnegative hy]
    omega

theorem toReal_mono (hx : x.isFinite = true) (hy : y.isFinite = true) (h : x.totalLe y = true) :
    x.toReal ≤ y.toReal := by
  rw [toReal_eq hx, toReal_eq hy]
  exact mul_le_mul_of_nonneg_right (Int.cast_le.mpr (signedUnits_mono h)) step_pos.le

theorem overflow_eq : overflow = 2 * ((2 ^ 54 - 1) * 2 ^ 2044) := by decide +kernel

theorem overflow_steps : (overflow : ℝ) * step = 2 * (2 ^ 1024 - 2 ^ 970) := by
  have hhigh : (2 : ℝ) ^ 1024 = 2 ^ 54 * 2 ^ 970 := by rw [← pow_add]
  have hstep : (2 : ℝ) ^ 2044 * step = 2 ^ 970 := by
    rw [step, ← zpow_natCast, ← zpow_add₀ two_ne_zero, ← zpow_natCast]
    rfl
  rw [overflow_eq, hhigh, ← hstep, Nat.cast_mul, Nat.cast_mul, Nat.cast_pow, Nat.cast_sub (by decide), Nat.cast_pow,
    Nat.cast_ofNat, Nat.cast_one]
  generalize (2 : ℝ) ^ 2044 = spacing
  ring

/-- A sum is finite exactly if the exact sum is before the midpoint above the largest number. -/
theorem isFinite_add_iff_toReal (hx : x.isFinite = true) (hy : y.isFinite = true) :
    (x.add y).isFinite = true ↔ |x.toReal + y.toReal| < 2 ^ 1024 - 2 ^ 970 := by
  have hsum : |x.toReal + y.toReal| = ((x.signedUnits + y.signedUnits).natAbs : ℝ) * step := by
    rw [toReal_eq hx, toReal_eq hy, ← add_mul, ← Int.cast_add, abs_mul, abs_of_pos step_pos, Nat.cast_natAbs,
      Int.cast_abs]
  rw [isFinite_add_iff hx hy, hsum, ← Nat.cast_lt (α := ℝ), ← mul_lt_mul_iff_left₀ step_pos, overflow_steps,
    Nat.cast_mul, Nat.cast_ofNat, mul_assoc, mul_lt_mul_iff_right₀ two_pos]

end Herbarium.Binary64
