import Herbarium.Json.Number
import Herbarium.Proofs.Binary64.Averages

/-!
Integers times powers of ten.

An integer and a power of ten that are both numbers are rounded only once, and what comes out is the nearest number
(`scaledRank?_exact`). Otherwise three roundings add up. Each goes up by at most a part in 2⁵³ - 1
(`units_nearestRank_le`), so that a decimal stays in range if its nearest number is not one of the three largest
(`scaledRank?_of_nearest`). Those three are looked at one by one: the shortest decimal of every finite number is in
range (`scaledRank?_shortest`).
-/

namespace Herbarium

namespace Binary64

variable {rank num den : Nat}

/-- The number before a shifted mantissa is not further below it than a step of its own. -/
theorem le_units_pred (shift : Nat) {mantissa : Nat} (hhigh : mantissa ≤ 2 * binade) (hlow : binade ≤ mantissa) :
    (mantissa - 1) * 2 ^ shift ≤ units (shift * binade + mantissa - 1) := by
  by_cases hbelow : shift = 0 ∨ binade < mantissa
  · exact (units_below shift hhigh hbelow).ge
  -- the number before the first one of a binade is half a step below it
  · obtain rfl : mantissa = binade := by omega
    obtain ⟨shift, rfl⟩ := Nat.exists_eq_succ_of_ne_zero fun hzero : shift = 0 => hbelow (Or.inl hzero)
    have hbinade : 1 ≤ binade := by decide
    have hrank : shift.succ * binade + binade - 1 = shift * binade + (2 * binade - 1) := by
      rw [Nat.succ_mul]
      omega
    rw [hrank, units_shifted shift (Nat.sub_le _ _) (Or.inr (by omega)), Nat.pow_succ', ← Nat.mul_assoc]
    exact Nat.mul_le_mul_right _ (by omega)

/-- Rounding goes up by at most a part in 2⁵³ - 1. -/
theorem units_nearestRank_le (hden : 0 < den) (hrank : binade ≤ nearestRank num den) :
    (2 ^ 53 - 1) * (units (nearestRank num den) * den) ≤ 2 ^ 53 * num := by
  have hnear := (contains_bounds (nearestRank_contains num hden)).1
  obtain ⟨shift, mantissa, hmantissa, hlow, hhigh⟩ := exists_shifted hrank
  rw [hmantissa] at hnear ⊢
  have hunits := units_shifted shift hhigh.le (Or.inr hlow)
  have hbelow := le_units_pred shift hhigh.le hlow
  have hbinade : binade = 2 ^ 52 := rfl
  have hpart : (2 ^ 53 - 1) * mantissa ≤ 2 ^ 52 * (mantissa - 1 + mantissa) := by omega
  calc (2 ^ 53 - 1) * (units (shift * binade + mantissa) * den)
      = (2 ^ 53 - 1) * mantissa * (2 ^ shift * den) := by
        rw [hunits]
        ring
    _ ≤ 2 ^ 52 * (mantissa - 1 + mantissa) * (2 ^ shift * den) := Nat.mul_le_mul_right _ hpart
    _ = 2 ^ 52 * (((mantissa - 1) * 2 ^ shift + mantissa * 2 ^ shift) * den) := by ring
    _ ≤ 2 ^ 52 * (2 * num) := by
        refine Nat.mul_le_mul_left _ (le_trans ?_ hnear)
        exact Nat.mul_le_mul_right den (Nat.add_le_add hbelow hunits.ge)
    _ = 2 ^ 53 * num := by ring

theorem binade_le_nearestRank {n : Nat} (hn : 0 < n) : binade ≤ nearestRank (n * unitsPerOne) 1 := by
  rw [← nearestRank_units binade]
  refine nearestRank_mono Nat.one_pos Nat.one_pos (Nat.mul_le_mul_right 1 ?_)
  calc units binade ≤ unitsPerOne := by decide +kernel
    _ ≤ n * unitsPerOne := Nat.le_mul_of_pos_left _ hn

end Binary64

namespace Json

open Binary64 (units unitsPerOne infinityRank nearestRank)

variable {d : Decimal}

theorem scaledRank?_of_neg (h : d.exponent < 0) :
    scaledRank? d = some (perRank
      (lower (nearestRank (d.coefficient * unitsPerOne) 1) ((d.exponent.natAbs - 1) / powerLimit))
      (powerRank (d.exponent.natAbs - powerLimit * ((d.exponent.natAbs - 1) / powerLimit)))) := if_pos h

theorem scaledRank?_of_nonneg (h : 0 ≤ d.exponent) (hlimit : d.exponent.natAbs ≤ powerLimit)
    (hrange : timesRank (nearestRank (d.coefficient * unitsPerOne) 1) (powerRank d.exponent.natAbs) < infinityRank) :
    scaledRank? d =
      some (timesRank (nearestRank (d.coefficient * unitsPerOne) 1) (powerRank d.exponent.natAbs)) := by
  unfold scaledRank?
  dsimp only
  rw [if_neg (not_lt.mpr h), if_pos hlimit, if_pos hrange]

theorem nearest_of_nonneg (h : 0 ≤ d.exponent) :
    d.nearest = nearestRank (d.coefficient * 10 ^ d.exponent.natAbs * unitsPerOne) 1 := by
  rw [Decimal.nearest, Decimal.steps, Decimal.gridFactors_of_nonneg h]

/-! ## In range -/

/-- The rounded product of two rounded numbers is below that of the largest number, if the exact product is at least
three and a half steps below it. -/
theorem timesRank_lt {n k : Nat} (hn : 0 < n)
    (hproduct : 2 * (n * 10 ^ k * unitsPerOne) ≤ units (infinityRank - 4) + units (infinityRank - 3)) :
    timesRank (nearestRank (n * unitsPerOne) 1) (powerRank k) < infinityRank := by
  have hinteger := Binary64.units_nearestRank_le Nat.one_pos (Binary64.binade_le_nearestRank hn)
  have hpower := Binary64.units_nearestRank_le Nat.one_pos
    (Binary64.binade_le_nearestRank (Nat.pow_pos (n := k) (show 0 < 10 by decide)))
  have hslack : 2 ^ 105 * (units (infinityRank - 4) + units (infinityRank - 3)) ≤
      (2 ^ 53 - 1) * (2 ^ 53 - 1) * units (infinityRank - 1) := by decide +kernel
  have hlargest : nearestRank (units (infinityRank - 1)) 1 < infinityRank := by
    rw [Binary64.nearestRank_units]
    decide
  refine Nat.lt_of_le_of_lt (Binary64.nearestRank_mono Decimal.unitsPerOne_pos Nat.one_pos ?_) hlargest
  unfold powerRank
  rw [Nat.mul_one] at hinteger hpower ⊢
  generalize units (nearestRank (n * unitsPerOne) 1) = a at *
  generalize units (nearestRank (Nat.pow 10 k * unitsPerOne) 1) = b at *
  apply Nat.le_of_mul_le_mul_left (c := (2 ^ 53 - 1) * (2 ^ 53 - 1)) _ (by decide)
  calc (2 ^ 53 - 1) * (2 ^ 53 - 1) * (a * b) = (2 ^ 53 - 1) * a * ((2 ^ 53 - 1) * b) := by ring
    _ ≤ 2 ^ 53 * (n * unitsPerOne) * (2 ^ 53 * (10 ^ k * unitsPerOne)) := Nat.mul_le_mul hinteger hpower
    _ = 2 ^ 105 * (2 * (n * 10 ^ k * unitsPerOne)) * unitsPerOne := by ring
    _ ≤ 2 ^ 105 * (units (infinityRank - 4) + units (infinityRank - 3)) * unitsPerOne :=
        Nat.mul_le_mul_right _ (Nat.mul_le_mul_left _ hproduct)
    _ ≤ (2 ^ 53 - 1) * (2 ^ 53 - 1) * units (infinityRank - 1) * unitsPerOne := Nat.mul_le_mul_right _ hslack
    _ = (2 ^ 53 - 1) * (2 ^ 53 - 1) * (units (infinityRank - 1) * unitsPerOne) := Nat.mul_assoc _ _ _

theorem exponent_le_powerLimit (hd : d.coefficient ≠ 0) (hexponent : 0 ≤ d.exponent)
    (hfinite : d.nearest < infinityRank) : d.exponent.natAbs ≤ powerLimit := by
  by_contra hlarge
  refine absurd hfinite (not_lt.mpr ?_)
  rw [nearest_of_nonneg hexponent]
  refine Binary64.infinityRank_le_nearestRank Nat.one_pos ?_
  rw [Nat.mul_one]
  calc units infinityRank < 10 ^ 309 * unitsPerOne := by decide +kernel
    _ ≤ 10 ^ d.exponent.natAbs * unitsPerOne :=
        Nat.mul_le_mul_right _ (Nat.pow_le_pow_right (by decide) (Nat.lt_of_not_le hlarge))
    _ ≤ d.coefficient * 10 ^ d.exponent.natAbs * unitsPerOne :=
        Nat.mul_le_mul_right _ (Nat.le_mul_of_pos_left _ (Nat.pos_of_ne_zero hd))

theorem scaledRank?_of_nearest (hd : d.coefficient ≠ 0) (h : d.nearest ≤ infinityRank - 4) :
    ∃ rank, scaledRank? d = some rank := by
  rcases lt_or_ge d.exponent 0 with hneg | hnonneg
  · exact ⟨_, scaledRank?_of_neg hneg⟩
  · have hlimit := exponent_le_powerLimit hd hnonneg (h.trans_lt (by decide))
    have hproduct : 2 * (d.coefficient * 10 ^ d.exponent.natAbs * unitsPerOne) ≤
        units (infinityRank - 4) + units (infinityRank - 3) := by
      have hhigh := (Binary64.contains_bounds (Binary64.nearestRank_contains
        (d.coefficient * 10 ^ d.exponent.natAbs * unitsPerOne) Nat.one_pos)).2
      rw [← nearest_of_nonneg hnonneg, Nat.mul_one] at hhigh
      refine hhigh.trans (Nat.add_le_add ?_ ?_)
      · exact Binary64.units_strictMono.monotone h
      · exact Binary64.units_strictMono.monotone (Nat.succ_le_succ h)
    exact ⟨_, scaledRank?_of_nonneg hnonneg hlimit (timesRank_lt (Nat.pos_of_ne_zero hd) hproduct)⟩

theorem scaledRank?_shortest {rank : Nat} (hpos : 0 < rank) (hfinite : rank < infinityRank) :
    ∃ scaled, scaledRank? (Decimal.shortest .even rank) = some scaled := by
  rcases Nat.lt_or_ge (infinityRank - 4) rank with hlast | hbelow
  · have hthree : ∀ i < 3, ((scaledRank? (Decimal.shortest .even (infinityRank - 3 + i))).isSome) = true := by
      decide +kernel
    have hrank : rank = infinityRank - 3 + (rank - (infinityRank - 3)) := by omega
    rw [hrank]
    exact Option.isSome_iff_exists.mp (hthree _ (by omega))
  · have hnearest := Decimal.nearest_shortest .even hpos
    have hd : (Decimal.shortest .even rank).coefficient ≠ 0 := fun hzero => by
      have hnone := Decimal.nearest_eq_zero (Or.inl hzero)
      omega
    exact scaledRank?_of_nearest hd (hnearest.trans_le hbelow)

/-! ## Rounded once -/

theorem units_powerRank {k : Nat} (hk : k ≤ 22) : units (powerRank k) = 10 ^ k * unitsPerOne := by
  have hall : ∀ k < 23, units (powerRank k) = 10 ^ k * unitsPerOne := by decide +kernel
  exact hall k (Nat.lt_succ_of_le hk)

theorem scaledRank?_exact (hd : d.coefficient ≤ 2 ^ 53) (hexponent : d.exponent.natAbs ≤ 22) :
    scaledRank? d = some d.nearest := by
  obtain ⟨rank, _, hunits⟩ := Binary64.exists_units_eq hd
  have hinteger : units (nearestRank (d.coefficient * unitsPerOne) 1) = d.coefficient * unitsPerOne := by
    rw [← hunits, Binary64.nearestRank_units]
  have hpower := units_powerRank hexponent
  have hone := Decimal.unitsPerOne_pos
  have hlimit : powerLimit = 308 := rfl
  rcases lt_or_ge d.exponent 0 with hneg | hnonneg
  · have hsteps : (d.exponent.natAbs - 1) / powerLimit = 0 := Nat.div_eq_of_lt (by omega)
    rw [scaledRank?_of_neg hneg, hsteps, lower, Nat.mul_zero, Nat.sub_zero, perRank, hinteger, hpower, Decimal.nearest, Decimal.steps,
      Decimal.gridFactors_of_neg hneg, Nat.mul_one]
    exact congrArg some (Binary64.nearestRank_scale (Nat.pow_pos (by decide)) hone)
  · have hproduct : timesRank (nearestRank (d.coefficient * unitsPerOne) 1) (powerRank d.exponent.natAbs) =
        d.nearest := by
      rw [timesRank, hinteger, hpower, nearest_of_nonneg hnonneg]
      refine Binary64.nearestRank_congr hone Nat.one_pos ?_
      ring
    have hrange : d.nearest < infinityRank := by
      rw [nearest_of_nonneg hnonneg]
      refine Binary64.nearestRank_lt_infinityRank Nat.one_pos ?_
      calc 2 * (d.coefficient * 10 ^ d.exponent.natAbs * unitsPerOne)
          ≤ 2 * (2 ^ 53 * 10 ^ 22 * unitsPerOne) :=
            Nat.mul_le_mul_left 2 (Nat.mul_le_mul_right _
              (Nat.mul_le_mul hd (Nat.pow_le_pow_right (by decide) hexponent)))
        _ < units infinityRank * 1 := by decide +kernel
    rw [scaledRank?_of_nonneg hnonneg (by omega) (hproduct.trans_lt hrange), hproduct]

end Json

end Herbarium
