import Herbarium.Value.Basic
import Mathlib.Data.EReal.Basic
import Mathlib.Tactic.Ring
import Mathlib.Tactic.Positivity

/-!
The real numbers that binary64 numbers stand for.

A finite number stands for the real number that its sign, exponent and fraction fields write, and the infinities for the
two ends of the extended real line: `toEReal`. The order of numbers other than NaN is the order of what they stand for
(`compareNumeric_eq`): the steps of 2⁻¹⁰⁷⁴ in which they are compared are exact, and they grow with the rank, so that an
infinity is more of them than any finite number (`units_strictMono`). A number that narrows to an integer is as many
steps as the integer, whatever its magnitude (`narrow_cases`).
-/

namespace Herbarium

namespace Binary64

/-- The real number that the exponent and fraction fields of a finite number write. -/
noncomputable def magnitude (rank : Nat) : ℝ :=
  if rank / binade = 0 then (rank % binade : Nat) * (2 : ℝ) ^ (-1074 : ℤ)
  else ((binade + rank % binade : Nat) : ℝ) * (2 : ℝ) ^ (((rank / binade : Nat) : ℤ) - 1075)

/-- What a number other than NaN stands for. -/
noncomputable def toEReal (x : Binary64) : EReal :=
  if x.isInfinite then if x.negative then ⊥ else ⊤
  else ((if x.negative then -magnitude x.rank else magnitude x.rank : ℝ) : EReal)

/-- The length of a step. -/
noncomputable def step : ℝ := (2 : ℝ) ^ (-1074 : ℤ)

theorem step_pos : 0 < step := zpow_pos (by norm_num) _

theorem magnitude_eq (rank : Nat) : magnitude rank = units rank * step := by
  have hbinade : binade ≠ 0 := by decide
  rw [magnitude, units, step]
  by_cases h : rank < binade
  -- below the first binade the fraction counts the steps
  · rw [if_pos (Nat.div_eq_of_lt h), if_pos h, Nat.mod_eq_of_lt h]
  · have hexponent : rank / binade ≠ 0 := by
      rw [Nat.div_ne_zero_iff]
      exact ⟨hbinade, Nat.le_of_not_lt h⟩
    have hpower : ((rank / binade : Nat) : ℤ) - 1075 = ((rank / binade - 1 : Nat) : ℤ) + (-1074) := by
      generalize rank / binade = exponent at hexponent
      omega
    rw [if_neg hexponent, if_neg h, Nat.shiftLeft_eq, hpower, zpow_add₀ (by norm_num), zpow_natCast]
    push_cast
    ring

/-- The steps of a rank by its fields, from the second binade on. -/
theorem units_fields (exponent : Nat) {fraction : Nat} (h : fraction < binade) :
    units (binade * (exponent + 1) + fraction) = (binade + fraction) * 2 ^ exponent := by
  have hbinade : 0 < binade := by decide
  have hlarge : ¬ binade * (exponent + 1) + fraction < binade := by
    rw [Nat.mul_succ]
    omega
  rw [units, if_neg hlarge, Nat.shiftLeft_eq, Nat.mul_add_mod, Nat.mod_eq_of_lt h, Nat.mul_add_div hbinade,
    Nat.div_eq_of_lt h, Nat.add_zero, Nat.add_sub_cancel]

theorem units_lt_succ (rank : Nat) : units rank < units (rank + 1) := by
  have hbinade : 0 < binade := by decide
  by_cases hsmall : rank < binade
  · rw [units, if_pos hsmall]
    by_cases hnext : rank + 1 < binade
    · rw [units, if_pos hnext]
      exact Nat.lt_succ_self rank
    · have hfirst : rank + 1 = binade * (0 + 1) + 0 := by omega
      rw [hfirst, units_fields 0 hbinade, Nat.pow_zero, Nat.mul_one]
      exact hsmall
  · obtain ⟨exponent, fraction, hfraction, rfl⟩ :
        ∃ exponent fraction, fraction < binade ∧ rank = binade * (exponent + 1) + fraction := by
      refine ⟨rank / binade - 1, rank % binade, Nat.mod_lt rank hbinade, ?_⟩
      rw [Nat.sub_add_cancel (Nat.div_pos (Nat.le_of_not_lt hsmall) hbinade), Nat.div_add_mod]
    have hpower : 0 < 2 ^ exponent := Nat.two_pow_pos exponent
    by_cases hnext : fraction + 1 < binade
    -- one more step of the binade, or the first rank of the next one
    · rw [Nat.add_assoc, units_fields exponent hfraction, units_fields exponent hnext]
      exact Nat.mul_lt_mul_of_pos_right (by omega) hpower
    · have hcarry : binade * (exponent + 1) + fraction + 1 = binade * (exponent + 1 + 1) + 0 := by
        rw [Nat.mul_succ binade (exponent + 1)]
        omega
      rw [hcarry, units_fields exponent hfraction, units_fields (exponent + 1) hbinade]
      calc (binade + fraction) * 2 ^ exponent
          < (binade + binade) * 2 ^ exponent := Nat.mul_lt_mul_of_pos_right (by omega) hpower
        _ = (binade + 0) * 2 ^ (exponent + 1) := by rw [Nat.add_zero, Nat.pow_succ', ← Nat.mul_assoc, Nat.mul_two]

theorem units_strictMono : StrictMono units := strictMono_nat_of_lt_succ units_lt_succ

/-! ## The order of numbers -/

/-- The steps of an infinity. -/
def limit : ℤ := units infinityRank

/-- What a number of steps stands for. -/
noncomputable def ofSteps (n : ℤ) : EReal :=
  if n ≤ -limit then ⊥ else if limit ≤ n then ⊤ else ((n * step : ℝ) : EReal)

theorem limit_pos : 0 < limit := by
  have hzero : units 0 < units infinityRank := units_strictMono (by decide)
  exact Int.natCast_pos.mpr (Nat.lt_of_le_of_lt (Nat.zero_le _) hzero)

variable {x y : Binary64}

theorem signedUnits_finite (h : x.rank < infinityRank) : -limit < x.signedUnits ∧ x.signedUnits < limit := by
  have hunits : (units x.rank : ℤ) < limit := Int.ofNat_lt.mpr (units_strictMono h)
  have hnonneg : (0 : ℤ) ≤ units x.rank := Int.natCast_nonneg _
  unfold signedUnits
  split <;> omega

theorem rank_le_infinity (h : x.isNaN = false) : x.rank < infinityRank ∨ x.rank = infinityRank := by
  rw [isNaN, decide_eq_false_iff_not] at h
  omega

theorem signedUnits_le (h : x.isNaN = false) : -limit ≤ x.signedUnits ∧ x.signedUnits ≤ limit := by
  rcases rank_le_infinity h with hfinite | hinfinite
  · obtain ⟨hlow, hhigh⟩ := signedUnits_finite hfinite
    exact ⟨hlow.le, hhigh.le⟩
  · have hpos := limit_pos
    rw [signedUnits, hinfinite, ← limit]
    split
    · exact ⟨le_refl _, by omega⟩
    · exact ⟨by omega, le_refl _⟩

theorem toEReal_eq_ofSteps (h : x.isNaN = false) : x.toEReal = ofSteps x.signedUnits := by
  have hpos := limit_pos
  rcases rank_le_infinity h with hfinite | hinfinite
  · obtain ⟨hlow, hhigh⟩ := signedUnits_finite hfinite
    have hne : ¬ x.isInfinite = true := by simpa [isInfinite] using hfinite.ne
    rw [toEReal, if_neg hne, ofSteps, if_neg (not_le.mpr hlow), if_neg (not_le.mpr hhigh), signedUnits, magnitude_eq]
    congr 1
    split
    · push_cast
      ring
    · push_cast
      rfl
  · have heq : x.isInfinite = true := by simpa [isInfinite] using hinfinite
    rw [toEReal, if_pos heq, ofSteps, signedUnits, hinfinite, ← limit]
    split
    · rw [if_pos (le_refl _)]
    · rw [if_neg (by omega), if_pos (le_refl _)]

theorem ofSteps_lt {n m : ℤ} (hn : -limit ≤ n) (hm : m ≤ limit) (hlt : n < m) : ofSteps n < ofSteps m := by
  have hn' : ¬ limit ≤ n := by omega
  have hm' : ¬ m ≤ -limit := by omega
  rw [ofSteps, ofSteps, if_neg hn', if_neg hm']
  split
  · split
    · exact bot_lt_top
    · exact EReal.bot_lt_coe _
  · split
    · exact EReal.coe_lt_top _
    · exact EReal.coe_lt_coe_iff.mpr (mul_lt_mul_of_pos_right (Int.cast_lt.mpr hlt) step_pos)

/-- The order of numbers is that of what they stand for. -/
theorem compareNumeric_eq (hx : x.isNaN = false) (hy : y.isNaN = false) :
    x.compareNumeric y = compare x.toEReal y.toEReal := by
  obtain ⟨hxlow, hxhigh⟩ := signedUnits_le hx
  obtain ⟨hylow, hyhigh⟩ := signedUnits_le hy
  rw [compareNumeric, toEReal_eq_ofSteps hx, toEReal_eq_ofSteps hy]
  rcases Int.lt_trichotomy x.signedUnits y.signedUnits with hlt | heq | hgt
  · rw [Int.compare_eq_lt.mpr hlt]
    exact (compare_lt_iff_lt.mpr (ofSteps_lt hxlow hyhigh hlt)).symm
  · rw [Int.compare_eq_eq.mpr heq]
    exact (compare_eq_iff_eq.mpr (congrArg ofSteps heq)).symm
  · rw [Int.compare_eq_gt.mpr hgt]
    exact (compare_gt_iff_gt.mpr (ofSteps_lt hylow hxhigh hgt)).symm

/-! ## Whole numbers -/

theorem truncate_mul (h : x.isWhole = true) : x.truncate * unitsPerOne = x.signedUnits := by
  have hdvd : unitsPerOne ∣ units x.rank := by
    have hmod := (Bool.and_eq_true_iff.mp h).2
    exact Nat.dvd_of_mod_eq_zero (beq_iff_eq.mp hmod)
  have hunits : (units x.rank : ℤ) = ((units x.rank / unitsPerOne : Nat) : ℤ) * unitsPerOne := by
    rw [← Int.natCast_mul, Nat.div_mul_cancel hdvd]
  rw [truncate, signedUnits, hunits]
  split
  · exact Int.neg_mul _ _
  · rfl

/-- The integer part of a number below 2⁶³ in magnitude fits 64 bits. -/
theorem toInt_toInt64 (h : x.abs.compareNumeric Value.narrowLimit = .lt) : x.toInt64.toInt = x.truncate := by
  have hlimit : Value.narrowLimit.signedUnits = (2 ^ 63 * unitsPerOne : Nat) := by decide +kernel
  have hquotient : units x.rank / unitsPerOne < 2 ^ 63 := by
    rw [compareNumeric, hlimit, Int.compare_eq_lt] at h
    exact Nat.div_lt_of_lt_mul (Nat.mul_comm _ _ ▸ Int.ofNat_lt.mp h)
  have htruncate : -2 ^ 63 < x.truncate ∧ x.truncate < 2 ^ 63 := by
    unfold truncate
    generalize units x.rank / unitsPerOne = q at hquotient
    dsimp only
    split <;> omega
  have hmin : Int64.minValue.toInt = -2 ^ 63 := rfl
  have hmax : Int64.maxValue.toInt = 2 ^ 63 - 1 := rfl
  unfold toInt64
  dsimp only
  rw [hmin, hmax, if_neg (by omega), if_neg (by omega), Int64.toInt_ofInt_of_le (by omega) (by omega)]

end Binary64

/-- A number narrows to itself or to the integer of as many steps. -/
theorem Value.narrow_cases (x : Binary64) :
    narrow x = .real x ∨ ∃ n : Int64, narrow x = .int n ∧ n.toInt * Binary64.unitsPerOne = x.signedUnits := by
  unfold narrow
  split
  case isFalse => exact Or.inl rfl
  case isTrue h =>
    obtain ⟨hwhole, hsmall⟩ := Bool.and_eq_true_iff.mp h
    refine Or.inr ⟨x.toInt64, rfl, ?_⟩
    rw [Binary64.toInt_toInt64 (beq_iff_eq.mp hsmall), Binary64.truncate_mul hwhole]

end Herbarium
