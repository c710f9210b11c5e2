import Herbarium.Decimal.Shortest
import Herbarium.Proofs.Binary64.Exact

/-!
Rounding to the nearest number.

The numbers that round to a rank are those of its interval (`nearestRank_eq_iff`): between the midpoints to the ranks
before and after it, the midpoints included when the rank is even. Existence is a computation, whole steps and 53 binary
digits apart; uniqueness holds because neighbouring intervals share a midpoint and only one of them is even. What is
rounded matters only as a quotient (`nearestRank_congr`), and an integer of 64 bits is never rounded to an infinity
(`ofInt_isFinite`).
-/

namespace Herbarium

namespace Decimal.Interval

/-- Whether x/den steps of 2⁻¹⁰⁷⁵ reach the lower end of an interval. -/
def Reaches (i : Interval) (x den : Nat) : Prop := if i.closed then i.low * den ≤ x else i.low * den < x

/-- Whether x/den steps of 2⁻¹⁰⁷⁵ stay within the upper end of an interval. -/
def Bounds (i : Interval) (x den : Nat) : Prop := if i.closed then x ≤ i.high * den else x < i.high * den

/-- Whether num/den steps of 2⁻¹⁰⁷⁴ lie in an interval. -/
def Contains (i : Interval) (num den : Nat) : Prop := i.Reaches (2 * num) den ∧ i.Bounds (2 * num) den

variable {i : Interval} {x den : Nat}

theorem reaches_of_lt (h : i.low * den < x) : i.Reaches x den := by
  unfold Reaches
  split
  · exact h.le
  · exact h

theorem bounds_of_lt (h : x < i.high * den) : i.Bounds x den := by
  unfold Bounds
  split
  · exact h.le
  · exact h

theorem le_of_not_reaches (h : ¬ i.Reaches x den) : x ≤ i.low * den :=
  Nat.le_of_not_lt fun hlt => h (reaches_of_lt hlt)

theorem le_of_not_bounds (h : ¬ i.Bounds x den) : i.high * den ≤ x :=
  Nat.le_of_not_lt fun hlt => h (bounds_of_lt hlt)

end Decimal.Interval

namespace Binary64

open Decimal (Interval)

variable {rank num den : Nat}

theorem contains_ofRank : (Interval.ofRank rank).Contains num den ↔
    if rank % 2 = 0 then
      (units (rank - 1) + units rank) * den ≤ 2 * num ∧ 2 * num ≤ (units rank + units (rank + 1)) * den
    else (units (rank - 1) + units rank) * den < 2 * num ∧ 2 * num < (units rank + units (rank + 1)) * den := by
  simp only [Interval.Contains, Interval.Reaches, Interval.Bounds, Interval.ofRank, beq_iff_eq]
  split <;> rfl

theorem contains_bounds (h : (Interval.ofRank rank).Contains num den) :
    (units (rank - 1) + units rank) * den ≤ 2 * num ∧ 2 * num ≤ (units rank + units (rank + 1)) * den := by
  rw [contains_ofRank] at h
  split at h
  · exact h
  · exact ⟨h.1.le, h.2.le⟩

/-! ## Rounding to a whole number -/

theorem roundDiv_bounds (hden : 0 < den) :
    2 * roundDiv num den * den ≤ 2 * num + den ∧ 2 * num ≤ (2 * roundDiv num den + 1) * den ∧
      (roundDiv num den % 2 = 1 →
        2 * roundDiv num den * den < 2 * num + den ∧ 2 * num < (2 * roundDiv num den + 1) * den) := by
  have hnum : num = num / den * den + num % den := (Nat.div_add_mod' num den).symm
  have hr : num % den < den := Nat.mod_lt num hden
  unfold roundDiv
  generalize num / den = q at hnum
  generalize num % den = r at hnum hr
  have hstep : 2 * (q + 1) * den = 2 * (q * den) + 2 * den := by ring
  have hsame : 2 * q * den = 2 * (q * den) := by ring
  dsimp only
  split
  · rw [Nat.add_mul, hsame]
    omega
  · split
    · rw [Nat.add_mul, hstep]
      omega
    -- a half goes to the even neighbour
    · split
      · rw [Nat.add_mul, hsame]
        omega
      · rw [Nat.add_mul, hstep]
        omega

theorem roundDiv_le {bound : Nat} (h : num / den < bound) : roundDiv num den ≤ bound := by
  unfold roundDiv
  dsimp only
  split
  · omega
  · split
    · omega
    · split <;> omega

theorem le_roundDiv {bound : Nat} (h : bound ≤ num / den) : bound ≤ roundDiv num den := by
  unfold roundDiv
  dsimp only
  split
  · omega
  · split
    · omega
    · split <;> omega

/-! ## The steps of a mantissa and a shift -/

theorem units_shifted (shift : Nat) {mantissa : Nat} (hhigh : mantissa ≤ 2 * binade)
    (hlow : shift = 0 ∨ binade ≤ mantissa) :
    units (shift * binade + mantissa) = mantissa * 2 ^ shift := by
  have hbinade : 0 < binade := by decide
  by_cases hsmall : mantissa < binade
  · obtain rfl : shift = 0 := by omega
    rw [Nat.zero_mul, Nat.zero_add, units, if_pos hsmall, Nat.pow_zero, Nat.mul_one]
  · obtain ⟨fraction, rfl⟩ := Nat.exists_eq_add_of_le (Nat.le_of_not_lt hsmall)
    by_cases hcarry : fraction < binade
    · have hrank : shift * binade + (binade + fraction) = binade * (shift + 1) + fraction := by ring
      rw [hrank, units_fields shift hcarry]
    -- the first rank of the next binade
    · obtain rfl : fraction = binade := by omega
      have hrank : shift * binade + (binade + binade) = binade * (shift + 1 + 1) + 0 := by ring
      rw [hrank, units_fields (shift + 1) hbinade, Nat.pow_succ']
      ring

theorem units_above (shift : Nat) {mantissa : Nat} (hhigh : mantissa ≤ 2 * binade)
    (hlow : shift = 0 ∨ binade ≤ mantissa) :
    (mantissa + 1) * 2 ^ shift ≤ units (shift * binade + mantissa + 1) := by
  rw [Nat.add_assoc]
  rcases Nat.lt_or_eq_of_le hhigh with hlt | rfl
  · rw [units_shifted shift hlt (by omega)]
  · have hrank : shift * binade + (2 * binade + 1) = (shift + 1) * binade + (binade + 1) := by ring
    rw [hrank, units_shifted (shift + 1) (by decide) (Or.inr (by omega)), Nat.pow_succ']
    calc (2 * binade + 1) * 2 ^ shift ≤ (2 * (binade + 1)) * 2 ^ shift := Nat.mul_le_mul_right _ (by omega)
      _ = (binade + 1) * (2 * 2 ^ shift) := by ring

theorem units_below (shift : Nat) {mantissa : Nat} (hhigh : mantissa ≤ 2 * binade)
    (hlow : shift = 0 ∨ binade < mantissa) :
    units (shift * binade + mantissa - 1) = (mantissa - 1) * 2 ^ shift := by
  by_cases hzero : mantissa = 0
  · obtain rfl : shift = 0 := by
      have hbinade : 0 < binade := by decide
      omega
    subst hzero
    rfl
  · rw [Nat.add_sub_assoc (Nat.one_le_iff_ne_zero.mpr hzero), units_shifted shift (by omega) (by omega)]

/-- Every rank from one binade on is a mantissa and a shift. -/
theorem exists_shifted (h : binade ≤ rank) :
    ∃ shift mantissa, rank = shift * binade + mantissa ∧ binade ≤ mantissa ∧ mantissa < 2 * binade := by
  have hbinade : 0 < binade := by decide
  have hmod := Nat.mod_lt rank hbinade
  refine ⟨rank / binade - 1, rank % binade + binade, ?_, Nat.le_add_left _ _, by omega⟩
  have hpositive := Nat.div_pos h hbinade
  calc rank = (rank / binade - 1 + 1) * binade + rank % binade := by
        rw [Nat.sub_add_cancel hpositive, Nat.div_add_mod']
    _ = (rank / binade - 1) * binade + (rank % binade + binade) := by ring

/-- The neighbours of a rank are further apart than a part in 10¹⁶ of it. -/
theorem units_gap (h : 0 < rank) : units (rank - 1) * 10 ^ 16 + 2 * units rank < units (rank + 1) * 10 ^ 16 := by
  have hbinade : binade = 4503599627370496 := rfl
  rcases Nat.lt_or_ge rank binade with hsmall | hlarge
  · have hself : ∀ n ≤ binade, units n = n := fun n hn => by
      have hshifted := units_shifted 0 (show n ≤ 2 * binade by omega) (Or.inl rfl)
      rwa [Nat.zero_mul, Nat.zero_add, Nat.pow_zero, Nat.mul_one] at hshifted
    rw [hself _ (by omega), hself _ hsmall.le, hself _ hsmall]
    omega
  · obtain ⟨shift, mantissa, rfl, hlow, hhigh⟩ := exists_shifted hlarge
    have hunits := units_shifted shift hhigh.le (Or.inr hlow)
    have habove := units_above shift hhigh.le (Or.inr hlow)
    have hpower : 0 < 2 ^ shift := Nat.two_pow_pos shift
    rw [hunits]
    -- below the first rank of a binade the step is half as long
    rcases Nat.lt_or_eq_of_le hlow with hlt | rfl
    · rw [units_below shift hhigh.le (Or.inr hlt)]
      calc (mantissa - 1) * 2 ^ shift * 10 ^ 16 + 2 * (mantissa * 2 ^ shift)
          = ((mantissa - 1) * 10 ^ 16 + 2 * mantissa) * 2 ^ shift := by ring
        _ < (mantissa + 1) * 10 ^ 16 * 2 ^ shift := Nat.mul_lt_mul_of_pos_right (by omega) hpower
        _ = (mantissa + 1) * 2 ^ shift * 10 ^ 16 := by ring
        _ ≤ _ := Nat.mul_le_mul_right _ habove
    · have hbelow : units (shift * binade + binade - 1) ≤ binade * 2 ^ shift :=
        hunits ▸ units_strictMono.monotone (Nat.sub_le _ 1)
      calc units (shift * binade + binade - 1) * 10 ^ 16 + 2 * (binade * 2 ^ shift)
          ≤ binade * 2 ^ shift * 10 ^ 16 + 2 * (binade * 2 ^ shift) :=
            Nat.add_le_add_right (Nat.mul_le_mul_right _ hbelow) _
        _ = (binade * 10 ^ 16 + 2 * binade) * 2 ^ shift := by ring
        _ < (binade + 1) * 10 ^ 16 * 2 ^ shift := Nat.mul_lt_mul_of_pos_right (by decide) hpower
        _ = (binade + 1) * 2 ^ shift * 10 ^ 16 := by ring
        _ ≤ _ := Nat.mul_le_mul_right _ habove

/-! ## The interval of the nearest rank -/

theorem shift_cases (num den : Nat) :
    ((num / den).log2 - 52 = 0 ∧ num / den < 2 * binade) ∨
      (binade * 2 ^ ((num / den).log2 - 52) ≤ num / den ∧
        num / den < 2 * binade * 2 ^ ((num / den).log2 - 52)) := by
  generalize num / den = q
  have hupper : q < 2 ^ (q.log2 + 1) := Nat.lt_log2_self
  rcases Nat.lt_or_ge q.log2 53 with hlt | hge
  · refine Or.inl ⟨by omega, Nat.lt_of_lt_of_le hupper ?_⟩
    exact Nat.pow_le_pow_right (by decide) (by omega : q.log2 + 1 ≤ 53)
  · have hq : q ≠ 0 := by
      rintro rfl
      simp at hge
    have hlower : 2 ^ q.log2 ≤ q := Nat.log2_self_le hq
    obtain ⟨shift, hshift⟩ := Nat.exists_eq_add_of_le (Nat.le_of_succ_le hge)
    rw [hshift] at hlower hupper ⊢
    rw [Nat.add_sub_cancel_left]
    refine Or.inr ⟨?_, ?_⟩
    · rw [Nat.pow_add] at hlower
      exact hlower
    · rw [Nat.add_right_comm, Nat.pow_add] at hupper
      exact hupper

/-- A mantissa nearest to a shifted quotient gives a rank nearest to the quotient. -/
theorem contains_shifted {shift mantissa : Nat} (hhigh : mantissa ≤ 2 * binade) (hlow : shift = 0 ∨ binade ≤ mantissa)
    (hfloor : shift = 0 ∨ binade * 2 ^ shift * den ≤ num)
    (hnear : 2 * mantissa * (den * 2 ^ shift) ≤ 2 * num + den * 2 ^ shift ∧
      2 * num ≤ (2 * mantissa + 1) * (den * 2 ^ shift) ∧
      (mantissa % 2 = 1 → 2 * mantissa * (den * 2 ^ shift) < 2 * num + den * 2 ^ shift ∧
        2 * num < (2 * mantissa + 1) * (den * 2 ^ shift))) :
    (Interval.ofRank (shift * binade + mantissa)).Contains num den := by
  have hparity : (shift * binade + mantissa) % 2 = mantissa % 2 := by
    have heven : shift * binade % 2 = 0 := by rw [Nat.mul_mod, show binade % 2 = 0 from rfl, Nat.mul_zero]
    omega
  have hunits := units_shifted shift hhigh hlow
  have habove : (2 * mantissa + 1) * (den * 2 ^ shift) ≤
      (units (shift * binade + mantissa) + units (shift * binade + mantissa + 1)) * den := by
    calc (2 * mantissa + 1) * (den * 2 ^ shift)
        = (mantissa * 2 ^ shift + (mantissa + 1) * 2 ^ shift) * den := by ring
      _ ≤ _ := Nat.mul_le_mul_right den (Nat.add_le_add hunits.ge (units_above shift hhigh hlow))
  rw [contains_ofRank, hparity]
  by_cases hbelow : shift = 0 ∨ binade < mantissa
  · have hlower : (units (shift * binade + mantissa - 1) + units (shift * binade + mantissa)) * den =
        2 * mantissa * (den * 2 ^ shift) - den * 2 ^ shift := by
      have hsum : mantissa - 1 + mantissa = 2 * mantissa - 1 := by omega
      rw [units_below shift hhigh hbelow, hunits, ← Nat.add_mul, hsum, Nat.mul_assoc,
        Nat.mul_comm (2 ^ shift) den, Nat.sub_mul, Nat.one_mul]
    rw [hlower]
    split
    · omega
    · have hstrict := hnear.2.2 (by omega)
      have hpos : den * 2 ^ shift ≤ 2 * mantissa * (den * 2 ^ shift) := Nat.le_mul_of_pos_left _ (by omega)
      omega
  -- the first rank of a binade, which the ranks below it are nearer to each other than those above
  · obtain rfl : mantissa = binade := by omega
    have hlower : (units (shift * binade + binade - 1) + units (shift * binade + binade)) * den ≤ 2 * num := by
      have hmono := units_strictMono.monotone (Nat.sub_le (shift * binade + binade) 1)
      calc (units (shift * binade + binade - 1) + units (shift * binade + binade)) * den
          ≤ (binade * 2 ^ shift + binade * 2 ^ shift) * den :=
            Nat.mul_le_mul_right den (Nat.add_le_add (hmono.trans hunits.le) hunits.le)
        _ = 2 * (binade * 2 ^ shift * den) := by ring
        _ ≤ 2 * num := Nat.mul_le_mul_left 2 (hfloor.resolve_left fun h => hbelow (Or.inl h))
    rw [if_pos (by decide)]
    exact ⟨hlower, hnear.2.1.trans habove⟩

theorem nearestRank_contains (num : Nat) (hden : 0 < den) :
    (Interval.ofRank (nearestRank num den)).Contains num den := by
  obtain ⟨shift, hshift⟩ : ∃ shift, shift = (num / den).log2 - 52 := ⟨_, rfl⟩
  have hpower : 0 < 2 ^ shift := Nat.two_pow_pos shift
  have hquotient : num / (den * 2 ^ shift) = num / den / 2 ^ shift := (Nat.div_div_eq_div_mul _ _ _).symm
  have hcases := shift_cases num den
  rw [nearestRank, ← hshift, Nat.shiftLeft_eq]
  rw [← hshift] at hcases
  rcases hcases with ⟨rfl, hsmall⟩ | ⟨hleft, hright⟩
  · refine contains_shifted (roundDiv_le ?_) (Or.inl rfl) (Or.inl rfl) (roundDiv_bounds (Nat.mul_pos hden hpower))
    rwa [Nat.pow_zero, Nat.mul_one]
  · refine contains_shifted (roundDiv_le ?_) (Or.inr (le_roundDiv ?_)) (Or.inr ?_)
      (roundDiv_bounds (Nat.mul_pos hden hpower))
    · rw [hquotient]
      exact Nat.div_lt_of_lt_mul (Nat.mul_comm _ _ ▸ hright)
    · rw [hquotient]
      exact (Nat.le_div_iff_mul_le hpower).mpr hleft
    · exact (Nat.le_div_iff_mul_le hden).mp hleft

/-! ## Only one interval -/

theorem not_contains_of_lt {other : Nat} (hlt : rank < other) (h : (Interval.ofRank rank).Contains num den)
    (hother : (Interval.ofRank other).Contains num den) : den = 0 := by
  have hhigh := (contains_bounds h).2
  have hlow := (contains_bounds hother).1
  by_contra hden
  have hpos : 0 < den := Nat.pos_of_ne_zero hden
  have hsum : (units rank + units (rank + 1)) * den ≥ (units (other - 1) + units other) * den := hlow.trans hhigh
  have hle := Nat.le_of_mul_le_mul_right hsum hpos
  have hfirst : units rank ≤ units (other - 1) := units_strictMono.monotone (by omega)
  have hsecond : units (rank + 1) ≤ units other := units_strictMono.monotone hlt
  -- the ranks are neighbours, and the one of them that is odd leaves out the midpoint
  obtain rfl : other = rank + 1 := by
    have heq : units (rank + 1) = units other := by omega
    exact (units_strictMono.injective heq).symm
  rw [Nat.add_sub_cancel] at hlow
  rw [contains_ofRank] at h hother
  split at h
  · rw [if_neg (by omega), Nat.add_sub_cancel] at hother
    omega
  · omega

theorem contains_unique {other : Nat} (hden : 0 < den) (h : (Interval.ofRank rank).Contains num den)
    (hother : (Interval.ofRank other).Contains num den) : rank = other := by
  rcases Nat.lt_trichotomy rank other with hlt | heq | hgt
  · exact absurd (not_contains_of_lt hlt h hother) hden.ne'
  · exact heq
  · exact absurd (not_contains_of_lt hgt hother h) hden.ne'

/-- The numbers that round to a rank are those of its interval. -/
theorem nearestRank_eq_iff (hden : 0 < den) :
    nearestRank num den = rank ↔ (Interval.ofRank rank).Contains num den := by
  constructor
  · rintro rfl
    exact nearestRank_contains num hden
  · exact contains_unique hden (nearestRank_contains num hden)

theorem contains_scale {factor : Nat} (hfactor : 0 < factor) (h : (Interval.ofRank rank).Contains num den) :
    (Interval.ofRank rank).Contains (num * factor) (den * factor) := by
  rw [contains_ofRank] at h ⊢
  rw [← Nat.mul_assoc, ← Nat.mul_assoc, ← Nat.mul_assoc]
  split at h
  · next heven =>
    rw [if_pos heven]
    exact ⟨Nat.mul_le_mul_right factor h.1, Nat.mul_le_mul_right factor h.2⟩
  · next hodd =>
    rw [if_neg hodd]
    exact ⟨Nat.mul_lt_mul_of_pos_right h.1 hfactor, Nat.mul_lt_mul_of_pos_right h.2 hfactor⟩

theorem nearestRank_scale {factor : Nat} (hden : 0 < den) (hfactor : 0 < factor) :
    nearestRank (num * factor) (den * factor) = nearestRank num den := by
  rw [nearestRank_eq_iff (Nat.mul_pos hden hfactor)]
  exact contains_scale hfactor (nearestRank_contains num hden)

/-- Only the quotient is rounded. -/
theorem nearestRank_congr {num' den' : Nat} (hden : 0 < den) (hden' : 0 < den') (h : num * den' = num' * den) :
    nearestRank num den = nearestRank num' den' := by
  rw [← nearestRank_scale hden hden', ← nearestRank_scale hden' hden, h, Nat.mul_comm den den']

/-! ## Where rounding ends -/

theorem nearestRank_lt_infinityRank (hden : 0 < den) (h : 2 * num < units infinityRank * den) :
    nearestRank num den < infinityRank := by
  by_contra hge
  have hlow := (contains_bounds (nearestRank_contains num hden)).1
  have hunits : units infinityRank ≤ units (nearestRank num den) := units_strictMono.monotone (Nat.le_of_not_lt hge)
  have hbound := Nat.mul_le_mul_right den (hunits.trans (Nat.le_add_left _ (units (nearestRank num den - 1))))
  omega

theorem infinityRank_le_nearestRank (hden : 0 < den) (h : units infinityRank * den < num) :
    infinityRank ≤ nearestRank num den := by
  by_contra hlt
  have hhigh := (contains_bounds (nearestRank_contains num hden)).2
  have hupper : units (nearestRank num den + 1) ≤ units infinityRank := units_strictMono.monotone (by omega)
  have hlower : units (nearestRank num den) ≤ units infinityRank := (units_lt_succ _).le.trans hupper
  have hbound := Nat.mul_le_mul_right den (Nat.add_le_add hlower hupper)
  rw [Nat.add_mul (units infinityRank)] at hbound
  omega

theorem nearestRank_eq_zero (hden : 0 < den) (h : 2 * num ≤ den) : nearestRank num den = 0 := by
  rw [nearestRank_eq_iff hden, contains_ofRank, if_pos rfl]
  have hzero : units 0 = 0 := by decide
  have hone : units 1 = 1 := by decide
  rw [hzero, hone]
  omega

theorem isFinite_ofRank {negative : Bool} (h : rank < infinityRank) : (ofRank negative rank).isFinite = true :=
  decide_eq_true (Nat.lt_of_le_of_lt (Nat.min_le_left _ _) h)

/-- An integer of 64 bits has a nearest number that is finite. -/
theorem ofInt_isFinite {n : ℤ} (h : n.natAbs ≤ 2 ^ 63) : (ofInt n).isFinite = true := by
  apply isFinite_ofRank
  apply nearestRank_lt_infinityRank Nat.one_pos
  calc 2 * (n.natAbs * unitsPerOne) ≤ 2 * (2 ^ 63 * unitsPerOne) := Nat.mul_le_mul_left 2 (Nat.mul_le_mul_right _ h)
    _ < units infinityRank * 1 := by decide +kernel

end Binary64

end Herbarium
