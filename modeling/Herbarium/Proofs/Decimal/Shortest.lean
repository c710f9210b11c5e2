import Herbarium.Proofs.Binary64.Rounding
import Herbarium.Proofs.Decimal.Digits

/-!
Shortest decimals read back.

A decimal stands for a quotient of steps, and the number read from it is the nearest one to that quotient, whatever its
size (`ofDecimal_eq`); a zero moved from the coefficient to the exponent changes nothing. The search for the shortest
decimal of a rank only accepts decimals in the interval of the rank (`onGrid_cases`), and it ends: seventeen digits make
the grid narrower than any interval (`firstGrid_has`), and the coefficient stays small (`coefficient_shortest_le`). So
the shortest decimal of a finite rank reads back as that rank (`ofDecimal_shortest`).
-/

namespace Herbarium

namespace Decimal

open Binary64 (unitsPerOne)

variable {k : Int}

theorem gridFactors_of_neg (h : k < 0) : gridFactors k = (10 ^ k.natAbs, 1) := if_pos h

theorem gridFactors_of_nonneg (h : 0 ≤ k) : gridFactors k = (1, 10 ^ k.natAbs) := if_neg (not_lt.mpr h)

theorem gridFactors_pos (k : Int) : 0 < (gridFactors k).1 ∧ 0 < (gridFactors k).2 := by
  rcases lt_or_ge k 0 with hneg | hnonneg
  · rw [gridFactors_of_neg hneg]
    exact ⟨Nat.pow_pos (by decide), Nat.one_pos⟩
  · rw [gridFactors_of_nonneg hnonneg]
    exact ⟨Nat.one_pos, Nat.pow_pos (by decide)⟩

/-- The next grid is ten times finer. -/
theorem gridFactors_pred (k : Int) :
    (gridFactors (k - 1)).1 * (gridFactors k).2 = 10 * (gridFactors k).1 * (gridFactors (k - 1)).2 := by
  rcases lt_trichotomy k 0 with hneg | rfl | hpos
  · have hsucc : (k - 1).natAbs = k.natAbs + 1 := by omega
    rw [gridFactors_of_neg hneg, gridFactors_of_neg (by omega), hsucc]
    ring
  · rfl
  · have hsucc : k.natAbs = (k - 1).natAbs + 1 := by omega
    rw [gridFactors_of_nonneg hpos.le, gridFactors_of_nonneg (by omega), hsucc]
    ring

/-- The steps of 2⁻¹⁰⁷⁴ in a decimal, as a quotient. -/
def steps (d : Decimal) : Nat × Nat :=
  (d.coefficient * (gridFactors d.exponent).2 * unitsPerOne, (gridFactors d.exponent).1)

theorem steps_pos (d : Decimal) : 0 < d.steps.2 := (gridFactors_pos d.exponent).1

/-- The rank nearest to a decimal. -/
def nearest (d : Decimal) : Nat := Binary64.nearestRank d.steps.1 d.steps.2

/-- Whether a decimal lies in an interval. -/
def Interval.Has (i : Interval) (d : Decimal) : Prop := i.Contains d.steps.1 d.steps.2

theorem nearest_eq_iff {rank : Nat} {d : Decimal} : d.nearest = rank ↔ (Interval.ofRank rank).Has d :=
  Binary64.nearestRank_eq_iff d.steps_pos

/-- A zero may stand in the coefficient or count in the exponent. -/
theorem nearest_shift (c : Nat) (k : Int) : nearest ⟨c * 10, k - 1⟩ = nearest ⟨c, k⟩ := by
  apply Binary64.nearestRank_congr (steps_pos _) (steps_pos _)
  calc c * 10 * (gridFactors (k - 1)).2 * unitsPerOne * (gridFactors k).1
      = c * unitsPerOne * (10 * (gridFactors k).1 * (gridFactors (k - 1)).2) := by ring
    _ = c * unitsPerOne * ((gridFactors (k - 1)).1 * (gridFactors k).2) := by rw [gridFactors_pred]
    _ = c * (gridFactors k).2 * unitsPerOne * (gridFactors (k - 1)).1 := by ring

theorem nearest_shift_pow (c n : Nat) (k : Int) : nearest ⟨c * 10 ^ n, k - n⟩ = nearest ⟨c, k⟩ := by
  induction n with
  | zero => rw [Nat.pow_zero, Nat.mul_one, Int.natCast_zero, Int.sub_zero]
  | succ n ih =>
    have hexponent : k - ((n + 1 : Nat) : Int) = k - n - 1 := by omega
    rw [Nat.pow_succ, ← Nat.mul_assoc, hexponent, nearest_shift, ih]

theorem nearest_stripZeros (fuel : Nat) (d : Decimal) : (stripZeros fuel d).nearest = d.nearest := by
  induction fuel generalizing d with
  | zero => rfl
  | succ fuel ih =>
    unfold stripZeros
    split
    · next h =>
      have hwhole : d.coefficient / 10 * 10 = d.coefficient := Nat.div_mul_cancel (Nat.dvd_of_mod_eq_zero h.2)
      have hshift := nearest_shift (d.coefficient / 10) (d.exponent + 1)
      rw [hwhole, Int.add_sub_cancel] at hshift
      rw [ih, ← hshift]
    · rfl

/-! ## Sizes -/

/-- The place of the digit before the first one. -/
def size (d : Decimal) : Int := (digits d.coefficient).length + d.exponent

theorem two_mul_unitsPerOne_le : 2 * unitsPerOne ≤ 10 ^ 401 := by decide +kernel

theorem nearest_eq_zero {d : Decimal} (h : d.coefficient = 0 ∨ d.size < -400) : d.nearest = 0 := by
  apply Binary64.nearestRank_eq_zero d.steps_pos
  rcases h with hzero | hsize
  · unfold steps
    rw [hzero, Nat.zero_mul, Nat.zero_mul]
    exact Nat.zero_le _
  · unfold size at hsize
    obtain ⟨n, hn⟩ : ∃ n, d.exponent.natAbs = (digits d.coefficient).length + 401 + n :=
      Nat.exists_eq_add_of_le (by omega)
    unfold steps
    rw [gridFactors_of_neg (by omega), hn]
    calc 2 * (d.coefficient * 1 * unitsPerOne)
        = d.coefficient * (2 * unitsPerOne) := by ring
      _ ≤ 10 ^ (digits d.coefficient).length * 10 ^ 401 :=
          Nat.mul_le_mul (lt_pow_length_digits _).le two_mul_unitsPerOne_le
      _ ≤ 10 ^ (digits d.coefficient).length * 10 ^ 401 * 10 ^ n := Nat.le_mul_of_pos_right _ (Nat.pow_pos (by decide))
      _ = 10 ^ ((digits d.coefficient).length + 401 + n) := by rw [Nat.pow_add, Nat.pow_add]

theorem pow_le_of_lt_size {d : Decimal} {n : Nat} (hc : d.coefficient ≠ 0) (h : n < d.size) :
    10 ^ n * (gridFactors d.exponent).1 ≤ d.coefficient * (gridFactors d.exponent).2 := by
  have hdigits := pow_length_digits_le hc
  unfold size at h
  rcases lt_or_ge d.exponent 0 with hneg | hnonneg
  · rw [gridFactors_of_neg hneg, Nat.mul_one, ← Nat.pow_add]
    exact (Nat.pow_le_pow_right (by decide) (by omega)).trans hdigits
  · rw [gridFactors_of_nonneg hnonneg, Nat.mul_one]
    calc 10 ^ n ≤ 10 ^ ((digits d.coefficient).length - 1 + d.exponent.natAbs) :=
          Nat.pow_le_pow_right (by decide) (by omega)
      _ ≤ d.coefficient * 10 ^ d.exponent.natAbs := by
          rw [Nat.pow_add]
          exact Nat.mul_le_mul_right _ hdigits

theorem infinityRank_le_nearest {d : Decimal} (hc : d.coefficient ≠ 0) (h : 400 < d.size) :
    Binary64.infinityRank ≤ d.nearest := by
  apply Binary64.infinityRank_le_nearestRank d.steps_pos
  calc Binary64.units Binary64.infinityRank * (gridFactors d.exponent).1
      < 10 ^ 400 * unitsPerOne * (gridFactors d.exponent).1 :=
        Nat.mul_lt_mul_of_pos_right (by decide +kernel) (gridFactors_pos _).1
    _ = 10 ^ 400 * (gridFactors d.exponent).1 * unitsPerOne := Nat.mul_right_comm _ _ _
    _ ≤ d.coefficient * (gridFactors d.exponent).2 * unitsPerOne :=
        Nat.mul_le_mul_right _ (pow_le_of_lt_size hc h)

end Decimal

namespace Binary64

theorem ofRank_of_le {negative : Bool} {rank : Nat} (h : infinityRank ≤ rank) :
    ofRank negative rank = infinity negative := by
  simp only [ofRank, infinity, Nat.min_eq_right h]

/-- The number of a decimal is the nearest one, whatever the size of the decimal. -/
theorem ofDecimal_eq (negative : Bool) (d : Decimal) : ofDecimal negative d = ofRank negative d.nearest := by
  unfold ofDecimal
  dsimp only
  rw [← Decimal.size]
  split
  · next h => rw [Decimal.nearest_eq_zero h]
  · next hsmall =>
    rw [not_or] at hsmall
    split
    · next hlarge => rw [ofRank_of_le (Decimal.infinityRank_le_nearest hsmall.1 hlarge)]
    · unfold Decimal.nearest Decimal.steps ofRatio
      split
      · next hneg =>
        rw [Decimal.gridFactors_of_neg hneg, Nat.mul_one]
        rfl
      · next hnonneg =>
        rw [Decimal.gridFactors_of_nonneg (not_lt.mp hnonneg)]
        rfl

end Binary64

namespace Decimal

open Binary64 (unitsPerOne)

/-! ## The search on the grids -/

variable {tie : Tie} {i : Interval}

theorem unitsPerOne_pos : 0 < unitsPerOne := by decide +kernel

theorem has_iff {a b c : Nat} {k : Int} (hk : gridFactors k = (a, b)) :
    i.Has ⟨c, k⟩ ↔ i.Reaches (c * (b * (2 * unitsPerOne))) a ∧ i.Bounds (c * (b * (2 * unitsPerOne))) a := by
  have htwice : 2 * (c * b * unitsPerOne) = c * (b * (2 * unitsPerOne)) := by ring
  unfold Interval.Has Interval.Contains steps
  rw [hk, htwice]

theorem pick_cases (tie : Tie) (n : Nat) : tie.pick n = n ∨ tie.pick n = n + 1 := by
  cases tie with
  | away => exact Or.inr rfl
  | even => exact ite_eq_or_eq _ _ _

/-- A grid gives a decimal in the interval, or none because it is as wide as the interval. -/
theorem onGrid_cases (tie : Tie) (k : Int) (hlow : i.low < i.mid) (hhigh : i.mid < i.high) :
    (∃ c, i.onGrid tie k = some ⟨c, k⟩ ∧ i.Has ⟨c, k⟩) ∨
      (i.onGrid tie k = none ∧
        i.high * (gridFactors k).1 ≤ i.low * (gridFactors k).1 + (gridFactors k).2 * (2 * unitsPerOne)) := by
  obtain ⟨ha, hb⟩ := gridFactors_pos k
  rcases hk : gridFactors k with ⟨a, b⟩
  rw [hk] at ha hb
  have hstep : 0 < b * (2 * unitsPerOne) := Nat.mul_pos hb (Nat.mul_pos Nat.two_pos unitsPerOne_pos)
  have hmid : i.low * a < i.mid * a ∧ i.mid * a < i.high * a :=
    ⟨Nat.mul_lt_mul_of_pos_right hlow ha, Nat.mul_lt_mul_of_pos_right hhigh ha⟩
  have hfloor := Nat.div_mul_le_self (i.mid * a) (b * (2 * unitsPerOne))
  have hceil := Nat.lt_div_mul_add hstep (a := i.mid * a)
  unfold Interval.onGrid
  rw [hk]
  dsimp only
  simp only [has_iff hk]
  generalize b * (2 * unitsPerOne) = step at *
  generalize i.mid * a / step = c at *
  have hnext : (c + 1) * step = c * step + step := Nat.succ_mul c step
  -- the neighbour below is within the upper end, and the one above reaches the lower end
  have hbelow : i.Bounds (c * step) a := Interval.bounds_of_lt (by omega)
  have habove : i.Reaches ((c + 1) * step) a := Interval.reaches_of_lt (by omega)
  by_cases hreaches : if i.closed then i.low * a ≤ c * step else i.low * a < c * step
  · refine Or.inl ?_
    by_cases hbounds : if i.closed then (c + 1) * step ≤ i.high * a else (c + 1) * step < i.high * a
    · have hboth : ∀ n, n = c ∨ n = c + 1 → i.Reaches (n * step) a ∧ i.Bounds (n * step) a := by
        rintro n (rfl | rfl)
        · exact ⟨hreaches, hbelow⟩
        · exact ⟨habove, hbounds⟩
      rw [if_pos ⟨hreaches, hbounds⟩]
      refine ⟨_, rfl, hboth _ ?_⟩
      split
      · exact Or.inl rfl
      · split
        · exact Or.inr rfl
        · exact pick_cases tie c
    · rw [if_neg fun h => hbounds h.2, if_pos hreaches]
      exact ⟨c, rfl, hreaches, hbelow⟩
  · rw [if_neg fun h => hreaches h.1, if_neg hreaches]
    by_cases hbounds : if i.closed then (c + 1) * step ≤ i.high * a else (c + 1) * step < i.high * a
    · rw [if_pos hbounds]
      exact Or.inl ⟨c + 1, rfl, habove, hbounds⟩
    · rw [if_neg hbounds]
      have hwide := Interval.le_of_not_bounds hbounds
      have hnear := Interval.le_of_not_reaches hreaches
      exact Or.inr ⟨rfl, by omega⟩

/-- Some grid with as many digits more as it takes to be narrower than the interval gives a decimal in it. -/
theorem firstGrid_has (tie : Tie) (hlow : i.low < i.mid) (hhigh : i.mid < i.high) (fuel : Nat) (k : Int)
    (hnarrow : i.low * (gridFactors k).1 * 10 ^ fuel + (gridFactors k).2 * (2 * unitsPerOne) <
      i.high * (gridFactors k).1 * 10 ^ fuel) :
    i.Has (i.firstGrid tie (fuel + 1) k) := by
  induction fuel generalizing k with
  | zero =>
    rw [Nat.pow_zero, Nat.mul_one, Nat.mul_one] at hnarrow
    rcases onGrid_cases tie k hlow hhigh with ⟨c, hsome, hhas⟩ | ⟨_, hwide⟩
    · rw [Interval.firstGrid, hsome, Option.getD_some]
      exact hhas
    · omega
  | succ fuel ih =>
    rw [Interval.firstGrid]
    rcases onGrid_cases tie k hlow hhigh with ⟨c, hsome, hhas⟩ | ⟨hnone, _⟩
    · rw [hsome, Option.getD_some]
      exact hhas
    · rw [hnone, Option.getD_none]
      apply ih
      have hpred := gridFactors_pred k
      have hfiner := Nat.mul_lt_mul_of_pos_right hnarrow (gridFactors_pos (k - 1)).1
      apply Nat.lt_of_mul_lt_mul_left (a := 10 * (gridFactors k).1)
      calc 10 * (gridFactors k).1 *
            (i.low * (gridFactors (k - 1)).1 * 10 ^ fuel + (gridFactors (k - 1)).2 * (2 * unitsPerOne))
          = 10 * (gridFactors k).1 * i.low * (gridFactors (k - 1)).1 * 10 ^ fuel +
              10 * (gridFactors k).1 * (gridFactors (k - 1)).2 * (2 * unitsPerOne) := by ring
        _ = (i.low * (gridFactors k).1 * 10 ^ (fuel + 1) + (gridFactors k).2 * (2 * unitsPerOne)) *
              (gridFactors (k - 1)).1 := by
            rw [← hpred]
            ring
        _ < i.high * (gridFactors k).1 * 10 ^ (fuel + 1) * (gridFactors (k - 1)).1 := hfiner
        _ = 10 * (gridFactors k).1 * (i.high * (gridFactors (k - 1)).1 * 10 ^ fuel) := by ring

/-! ## The first digit -/

theorem le_mul_pow {num den bound n : Nat} (hnum : 0 < num) (hden : den ≤ 10 ^ bound) (hbound : bound ≤ n) :
    den ≤ num * 10 ^ n := by
  calc den ≤ 10 ^ bound := hden
    _ ≤ 10 ^ n := Nat.pow_le_pow_right (by decide) hbound
    _ ≤ num * 10 ^ n := Nat.le_mul_of_pos_left _ hnum

theorem climb_reaches {num den : Nat} (fuel k : Nat) (h : den ≤ num * 10 ^ (k + fuel)) :
    den ≤ num * 10 ^ climb num den fuel k := by
  induction fuel generalizing k with
  | zero => exact h
  | succ fuel ih =>
    unfold climb
    split
    · assumption
    · apply ih
      rwa [Nat.succ_add_eq_add_succ]

theorem climb_pos (num den fuel : Nat) {k : Nat} (h : 0 < k) : 0 < climb num den fuel k := by
  induction fuel generalizing k with
  | zero => exact h
  | succ fuel ih =>
    unfold climb
    split
    · exact h
    · exact ih (Nat.succ_pos k)

/-- The power of ten of the first digit is not above the number. -/
theorem leadingExponent_le {num den bound : Nat} (hnum : 0 < num) (hden : den ≤ 10 ^ bound) (hbound : bound ≤ 1 + 400) :
    den * (gridFactors (leadingExponent num den)).2 ≤ num * (gridFactors (leadingExponent num den)).1 := by
  unfold leadingExponent
  split
  · next hle =>
    have hpos := length_digits_pos (num / den)
    have hexponent : ((digits (num / den)).length - 1 : Int).natAbs = (digits (num / den)).length - 1 := by omega
    rw [gridFactors_of_nonneg (by omega), hexponent, Nat.mul_one]
    rcases Nat.eq_zero_or_pos den with rfl | hden
    · rw [Nat.zero_mul]
      exact Nat.zero_le _
    · have hquotient : num / den ≠ 0 := (Nat.div_pos hle hden).ne'
      calc den * 10 ^ ((digits (num / den)).length - 1) ≤ den * (num / den) :=
            Nat.mul_le_mul_left den (pow_length_digits_le hquotient)
        _ ≤ num := Nat.mul_div_le num den
  · have hpos := climb_pos num den 400 Nat.one_pos
    rw [gridFactors_of_neg (by omega), Int.natAbs_neg, Int.natAbs_natCast, Nat.mul_one]
    exact climb_reaches 400 1 (le_mul_pow hnum hden hbound)

/-! ## The shortest decimal -/

theorem nearest_shortest (tie : Tie) {rank : Nat} (h : 0 < rank) : (shortest tie rank).nearest = rank := by
  have hbelow : Binary64.units (rank - 1) < Binary64.units rank := Binary64.units_strictMono (by omega)
  have habove : Binary64.units rank < Binary64.units (rank + 1) := Binary64.units_lt_succ rank
  have hwidth : (Binary64.units (rank - 1) + Binary64.units rank) * 10 ^ 16 + 2 * Binary64.units rank <
      (Binary64.units rank + Binary64.units (rank + 1)) * 10 ^ 16 := by
    rw [Nat.add_mul, Nat.add_mul, Nat.add_right_comm, Nat.add_comm (Binary64.units rank * _)]
    exact Nat.add_lt_add_right (Binary64.units_gap h) _
  have hpositive : 0 < 2 * Binary64.units rank := by omega
  have hleading := leadingExponent_le hpositive two_mul_unitsPerOne_le (by decide)
  have hfactor := (gridFactors_pos (leadingExponent (2 * Binary64.units rank) (2 * unitsPerOne))).1
  have hlow : (Interval.ofRank rank).low < (Interval.ofRank rank).mid := by
    dsimp only [Interval.ofRank]
    omega
  have hhigh : (Interval.ofRank rank).mid < (Interval.ofRank rank).high := by
    dsimp only [Interval.ofRank]
    omega
  unfold shortest
  rw [if_neg h.ne', nearest_stripZeros, nearest_eq_iff]
  apply firstGrid_has tie hlow hhigh 16
  dsimp only [Interval.ofRank]
  generalize gridFactors (leadingExponent (2 * Binary64.units rank) (2 * unitsPerOne)) = factors at *
  generalize Binary64.units (rank - 1) = below at *
  generalize Binary64.units rank = number at *
  generalize Binary64.units (rank + 1) = above at *
  calc (below + number) * factors.1 * 10 ^ 16 + factors.2 * (2 * unitsPerOne)
      = (below + number) * 10 ^ 16 * factors.1 + 2 * unitsPerOne * factors.2 := by ring
    _ ≤ (below + number) * 10 ^ 16 * factors.1 + 2 * number * factors.1 := Nat.add_le_add_left hleading _
    _ = ((below + number) * 10 ^ 16 + 2 * number) * factors.1 := (Nat.add_mul _ _ _).symm
    _ < (number + above) * 10 ^ 16 * factors.1 := Nat.mul_lt_mul_of_pos_right hwidth hfactor
    _ = (number + above) * factors.1 * 10 ^ 16 := by ring

/-! ## Its digits -/

theorem eq_of_choice {α : Type} {p q : Prop} [Decidable p] [Decidable q] {both first second d : α}
    (h : (if p ∧ q then some both else if p then some first else if q then some second else none) = some d) :
    d = both ∨ d = first ∨ d = second := by
  split at h
  · exact Or.inl (Option.some.inj h).symm
  · split at h
    · exact Or.inr (Or.inl (Option.some.inj h).symm)
    · split at h
      · exact Or.inr (Or.inr (Option.some.inj h).symm)
      · cases h

theorem gridStep_pos (k : Int) : 0 < (gridFactors k).2 * (2 * unitsPerOne) :=
  Nat.mul_pos (gridFactors_pos k).2 (Nat.mul_pos Nat.two_pos unitsPerOne_pos)

theorem onGrid_coefficient_le {d : Decimal} {bound : Nat} (hd : i.onGrid tie k = some d)
    (hbound : i.mid * (gridFactors k).1 < bound * ((gridFactors k).2 * (2 * unitsPerOne))) :
    d.coefficient ≤ bound := by
  have hfloor := (Nat.div_lt_iff_lt_mul (gridStep_pos k)).mpr hbound
  unfold Interval.onGrid at hd
  dsimp only at hd
  generalize i.mid * (gridFactors k).1 / ((gridFactors k).2 * (2 * unitsPerOne)) = c at hd hfloor
  rcases eq_of_choice hd with rfl | rfl | rfl
  · have hpick := pick_cases tie c
    dsimp only
    split
    · omega
    · split <;> omega
  · exact hfloor.le
  · exact hfloor

/-- Each grid that is tried adds a digit. -/
theorem firstGrid_coefficient_le (tie : Tie) (i : Interval) {bound : Nat} (fuel : Nat)
    (hbound : i.mid * (gridFactors k).1 < bound * ((gridFactors k).2 * (2 * unitsPerOne))) :
    (i.firstGrid tie fuel k).coefficient ≤ bound * 10 ^ fuel := by
  induction fuel generalizing k bound with
  | zero =>
    rw [Nat.pow_zero, Nat.mul_one]
    exact ((Nat.div_lt_iff_lt_mul (gridStep_pos k)).mpr hbound).le
  | succ fuel ih =>
    rw [Interval.firstGrid]
    cases hgrid : i.onGrid tie k with
    | some d =>
      exact (onGrid_coefficient_le hgrid hbound).trans (Nat.le_mul_of_pos_right _ (Nat.pow_pos (by decide)))
    | none =>
      have hfiner : i.mid * (gridFactors (k - 1)).1 < bound * 10 * ((gridFactors (k - 1)).2 * (2 * unitsPerOne)) := by
        have hpred := gridFactors_pred k
        apply Nat.lt_of_mul_lt_mul_left (a := (gridFactors k).2)
        calc (gridFactors k).2 * (i.mid * (gridFactors (k - 1)).1)
            = i.mid * ((gridFactors (k - 1)).1 * (gridFactors k).2) := by ring
          _ = i.mid * (gridFactors k).1 * (10 * (gridFactors (k - 1)).2) := by
              rw [hpred]
              ring
          _ < bound * ((gridFactors k).2 * (2 * unitsPerOne)) * (10 * (gridFactors (k - 1)).2) :=
              Nat.mul_lt_mul_of_pos_right hbound (Nat.mul_pos (by decide) (gridFactors_pos (k - 1)).2)
          _ = (gridFactors k).2 * (bound * 10 * ((gridFactors (k - 1)).2 * (2 * unitsPerOne))) := by ring
      have hrest := ih hfiner
      rwa [Nat.mul_assoc, ← Nat.pow_succ'] at hrest

theorem stripZeros_coefficient_le (fuel : Nat) (d : Decimal) : (stripZeros fuel d).coefficient ≤ d.coefficient := by
  induction fuel generalizing d with
  | zero => exact le_refl _
  | succ fuel ih =>
    unfold stripZeros
    split
    · exact (ih _).trans (Nat.div_le_self _ _)
    · exact le_refl _

theorem climb_least {num den : Nat} (fuel k : Nat) (h : num * 10 ^ (k - 1) < den) :
    num * 10 ^ (climb num den fuel k - 1) < den := by
  induction fuel generalizing k with
  | zero => exact h
  | succ fuel ih =>
    unfold climb
    split
    · exact h
    · next hmore => exact ih (k + 1) (Nat.lt_of_not_le hmore)

/-- The next power of ten is above the number. -/
theorem lt_leadingExponent {num den : Nat} (hden : 0 < den) :
    num * (gridFactors (leadingExponent num den)).1 < 10 * ((gridFactors (leadingExponent num den)).2 * den) := by
  unfold leadingExponent
  split
  · have hpos := length_digits_pos (num / den)
    have hexponent : ((digits (num / den)).length - 1 : Int).natAbs = (digits (num / den)).length - 1 := by omega
    rw [gridFactors_of_nonneg (by omega), hexponent, Nat.mul_one, ← Nat.mul_assoc, ← Nat.pow_succ',
      Nat.succ_eq_add_one, Nat.sub_add_cancel hpos]
    exact (Nat.div_lt_iff_lt_mul hden).mp (lt_pow_length_digits _)
  · next hless =>
    have hpos := climb_pos num den 400 Nat.one_pos
    have hleast := @climb_least num den 400 1 (by simpa using hless)
    rw [gridFactors_of_neg (by omega), Int.natAbs_neg, Int.natAbs_natCast, Nat.one_mul]
    obtain ⟨k, hk⟩ := Nat.exists_eq_add_of_le' hpos
    rw [hk, Nat.add_sub_cancel] at hleast
    rw [hk, Nat.pow_succ, ← Nat.mul_assoc, Nat.mul_comm _ 10]
    exact Nat.mul_lt_mul_of_pos_left hleast (by decide)

/-- No shortest decimal has more digits than seventeen grids give. -/
theorem coefficient_shortest_le (tie : Tie) (rank : Nat) : (shortest tie rank).coefficient ≤ 10 ^ 18 := by
  have hunits : 0 < 2 * unitsPerOne := Nat.mul_pos Nat.two_pos unitsPerOne_pos
  unfold shortest
  split
  · exact Nat.zero_le _
  · exact (stripZeros_coefficient_le _ _).trans (firstGrid_coefficient_le tie _ 17 (lt_leadingExponent hunits))

/-! ## Reading it -/

theorem ofDecimal_of_nearest {x : Binary64} {d : Decimal} (h : x.isFinite = true) (hd : d.nearest = x.rank) :
    Binary64.ofDecimal x.negative d = x := by
  have hrank : x.rank < Binary64.infinityRank := of_decide_eq_true h
  rw [Binary64.ofDecimal_eq, hd]
  simp only [Binary64.ofRank, Nat.min_eq_left hrank.le]

/-- A finite number is the nearest one to its shortest decimal. -/
theorem ofDecimal_shortest (tie : Tie) {x : Binary64} (h : x.isFinite = true) :
    Binary64.ofDecimal x.negative (shortest tie x.rank) = x := by
  refine ofDecimal_of_nearest h ?_
  rcases Nat.eq_zero_or_pos x.rank with hzero | hpos
  · rw [hzero]
    exact nearest_eq_zero (Or.inl rfl)
  · exact nearest_shortest tie hpos

end Decimal

end Herbarium
