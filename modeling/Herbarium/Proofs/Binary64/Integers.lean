import Herbarium.Proofs.Decimal.Shortest

/-!
Integers among the numbers.

A finite number stands for an integer exactly if it is whole (`isWhole_iff`), and then for its integer part, which
becomes an integer of 64 bits as far as it is one and the nearest extreme otherwise (`toInt_toInt64_eq`). The other way
round, the number nearest to an integer stands for the integer if any number does (`ofInt_exact_iff`), and up to 2⁵³
in magnitude one does (`ofInt_exact_of_le`). The decimal text of an integer is read as the number nearest to it
(`read?_integerText`).
-/

namespace Herbarium

namespace Binary64

variable {x : Binary64} {n : ℤ}

theorem shiftLeft_mul_zpow (e : ℕ) : ((1 <<< e : ℕ) : ℝ) * (2 : ℝ) ^ (-(e : ℤ)) = 1 := by
  rw [Nat.one_shiftLeft, Nat.cast_pow, Nat.cast_ofNat, zpow_neg, zpow_natCast]
  exact mul_inv_cancel₀ (by positivity)

theorem unitsPerOne_mul_step : (unitsPerOne : ℝ) * step = 1 := shiftLeft_mul_zpow 1074

theorem unitsPerOne_eq_mul {shift : ℕ} (h : shift ≤ 1074) : unitsPerOne = 2 ^ shift * 2 ^ (1074 - shift) := by
  rw [← Nat.pow_add, ← Nat.one_shiftLeft, Nat.add_sub_cancel' h, unitsPerOne]

theorem natAbs_signedUnits (x : Binary64) : x.signedUnits.natAbs = units x.rank := by
  rw [signedUnits, apply_ite Int.natAbs, Int.natAbs_neg, Int.natAbs_natCast, ite_self]

/-- A finite number stands for an integer exactly if it is as many steps. -/
theorem toEReal_eq_int_iff (hx : x.isFinite = true) (k : ℤ) :
    x.toEReal = ((k : ℝ) : EReal) ↔ x.signedUnits = k * unitsPerOne := by
  have hrank : x.rank < infinityRank := of_decide_eq_true hx
  have hnan : x.isNaN = false := decide_eq_false (Nat.not_lt.mpr hrank.le)
  obtain ⟨hlow, hhigh⟩ := signedUnits_finite hrank
  rw [toEReal_eq_ofSteps hnan, ofSteps, if_neg (not_le.mpr hlow), if_neg (not_le.mpr hhigh), EReal.coe_eq_coe_iff]
  have hsteps : (k : ℝ) = ((k * unitsPerOne : ℤ) : ℝ) * step := by
    rw [Int.cast_mul, Int.cast_natCast, mul_assoc, unitsPerOne_mul_step, mul_one]
  rw [hsteps, mul_right_cancel_iff_of_pos step_pos, Int.cast_inj]

/-- A whole number stands for its integer part. -/
theorem toEReal_of_isWhole (h : x.isWhole = true) : x.toEReal = ((x.truncate : ℝ) : EReal) :=
  (toEReal_eq_int_iff (Bool.and_eq_true_iff.mp h).1 _).mpr (truncate_mul h).symm

theorem isWhole_iff (hx : x.isFinite = true) : x.isWhole = true ↔ ∃ k : ℤ, x.toEReal = ((k : ℝ) : EReal) := by
  constructor
  · intro h
    exact ⟨_, toEReal_of_isWhole h⟩
  · rintro ⟨k, hk⟩
    rw [toEReal_eq_int_iff hx] at hk
    have hunits : units x.rank = k.natAbs * unitsPerOne := by
      rw [← natAbs_signedUnits, hk, Int.natAbs_mul, Int.natAbs_natCast]
    rw [isWhole, hx, hunits, Nat.mul_mod_left]
    rfl

/-- The integer part, as far as 64 bits go. -/
theorem toInt_toInt64_eq (x : Binary64) : x.toInt64.toInt = max (-2 ^ 63) (min (2 ^ 63 - 1) x.truncate) := by
  have hmin : Int64.minValue.toInt = -2 ^ 63 := rfl
  have hmax : Int64.maxValue.toInt = 2 ^ 63 - 1 := rfl
  unfold toInt64
  dsimp only
  rw [hmin, hmax]
  split
  · rw [hmin]
    omega
  · split
    · rw [hmax]
      omega
    · rw [Int64.toInt_ofInt_of_le (by omega) (by omega)]
      omega

/-! ## The number nearest to an integer -/

theorem nearestRank_units (rank : Nat) : nearestRank (units rank) 1 = rank := by
  have hbelow : units (rank - 1) ≤ units rank := units_strictMono.monotone (Nat.sub_le rank 1)
  have habove := units_lt_succ rank
  rw [nearestRank_eq_iff Nat.one_pos, contains_ofRank]
  split
  · omega
  · have hstrict : units (rank - 1) < units rank := units_strictMono (by omega)
    omega

theorem signedUnits_ofRank {negative : Bool} {rank : Nat} (h : rank < infinityRank) :
    (ofRank negative rank).signedUnits = if negative then -(units rank : ℤ) else units rank := by
  simp only [signedUnits, ofRank, Nat.min_eq_left h.le]

theorem signed_natAbs (n : ℤ) :
    (if decide (n < 0) = true then -((n.natAbs * unitsPerOne : Nat) : ℤ) else (n.natAbs * unitsPerOne : Nat)) =
      n * unitsPerOne := by
  rw [Int.natCast_mul, ← Int.neg_mul, ← ite_mul]
  congr 1
  by_cases hneg : n < 0
  · rw [if_pos (decide_eq_true hneg)]
    omega
  · rw [if_neg (by simpa using hneg)]
    omega

/-- The number nearest to an integer stands for it if some number does. -/
theorem ofInt_exact_iff (hn : n.natAbs ≤ 2 ^ 63) :
    (ofInt n).toEReal = ((n : ℝ) : EReal) ↔ ∃ x : Binary64, x.isFinite = true ∧ x.toEReal = ((n : ℝ) : EReal) := by
  constructor
  · intro h
    exact ⟨_, ofInt_isFinite hn, h⟩
  · rintro ⟨x, hx, h⟩
    rw [toEReal_eq_int_iff hx] at h
    have hunits : n.natAbs * unitsPerOne = units x.rank := by
      rw [← natAbs_signedUnits, h, Int.natAbs_mul, Int.natAbs_natCast]
    have hrank : x.rank < infinityRank := of_decide_eq_true hx
    rw [toEReal_eq_int_iff (ofInt_isFinite hn), ofInt, ofRatio, hunits, nearestRank_units, signedUnits_ofRank hrank,
      ← hunits]
    exact signed_natAbs n

/-- The steps of a natural number of 53 bits are those of a rank. -/
theorem exists_units_eq {k : Nat} (hk : k ≤ 2 ^ 53) : ∃ rank < infinityRank, units rank = k * unitsPerOne := by
  have hbinade : binade = 2 ^ 52 := rfl
  rcases Nat.eq_zero_or_pos k with rfl | hpos
  · exact ⟨0, by decide, by decide⟩
  -- shifted until it fills the bits of a mantissa
  · obtain ⟨shift, hshift, hlow, hhigh⟩ : ∃ shift ≤ 52, 2 ^ 52 ≤ k * 2 ^ shift ∧ k * 2 ^ shift ≤ 2 ^ 53 := by
      have hlower : 2 ^ k.log2 ≤ k := Nat.log2_self_le hpos.ne'
      have hupper : k < 2 ^ (k.log2 + 1) := Nat.lt_log2_self
      rcases Nat.lt_or_ge k (2 ^ 53) with hlt | hge
      · have hlog : k.log2 < 53 := (Nat.log2_lt hpos.ne').mpr hlt
        refine ⟨52 - k.log2, Nat.sub_le _ _, ?_, ?_⟩
        · calc 2 ^ 52 = 2 ^ k.log2 * 2 ^ (52 - k.log2) := by rw [← Nat.pow_add, Nat.add_sub_cancel' (by omega)]
            _ ≤ k * 2 ^ (52 - k.log2) := Nat.mul_le_mul_right _ hlower
        · calc k * 2 ^ (52 - k.log2) ≤ 2 ^ (k.log2 + 1) * 2 ^ (52 - k.log2) := Nat.mul_le_mul_right _ hupper.le
            _ = 2 ^ 53 := by
              rw [← Nat.pow_add]
              congr 1
              omega
      · exact ⟨0, by decide, by omega, by omega⟩
    refine ⟨(1074 - shift) * binade + k * 2 ^ shift, ?_, ?_⟩
    · rw [infinityRank]
      calc (1074 - shift) * binade + k * 2 ^ shift ≤ 1074 * binade + 2 * binade :=
            Nat.add_le_add (Nat.mul_le_mul_right _ (Nat.sub_le _ _)) hhigh
        _ < 2047 * binade := by decide
    · rw [units_shifted _ hhigh (Or.inr hlow), unitsPerOne_eq_mul (show shift ≤ 1074 by omega), Nat.mul_assoc]

/-- Integers of up to 53 bits and the next one have a number that stands for them. -/
theorem ofInt_exact_of_le (hn : n.natAbs ≤ 2 ^ 53) : (ofInt n).toEReal = ((n : ℝ) : EReal) := by
  have hbound : n.natAbs ≤ 2 ^ 63 := hn.trans (Nat.pow_le_pow_right (by decide) (by decide))
  obtain ⟨rank, hrank, hunits⟩ := exists_units_eq hn
  rw [ofInt_exact_iff hbound]
  refine ⟨ofRank (n < 0) rank, isFinite_ofRank hrank, ?_⟩
  rw [toEReal_eq_int_iff (isFinite_ofRank hrank), signedUnits_ofRank hrank, hunits]
  exact signed_natAbs n

end Binary64

/-! ## The text of an integer -/

namespace Decimal

theorem spanSign_digits (n : Nat) : spanSign (digits n) = (false, digits n) := by
  unfold spanSign
  split
  · next h => exact absurd (isSome_digitValue?_digits (h ▸ List.mem_cons_self : '-' ∈ digits n)) (by decide)
  · next h => exact absurd (isSome_digitValue?_digits (h ▸ List.mem_cons_self : '+' ∈ digits n)) (by decide)
  · rfl

/-- The digits of a number are read as the number, in whatever sign they are. -/
theorem read?_signed {cs : List Char} {negative : Bool} {n : Nat} (h : spanSign cs = (negative, digits n)) :
    read? cs = some (negative, { coefficient := n, exponent := 0 }) := by
  have hspan : spanDigits (digits n) = (digits n, []) := by
    simpa using @spanDigits_append (digits n) [] (fun c => isSome_digitValue?_digits) (by simp)
  have hmantissa : spanMantissa (digits n) = (digits n, [], []) := by
    rw [spanMantissa, hspan]
  simp [read?, h, hmantissa, digits_ne_nil, readExponent?, valueOfDigits_digits]

theorem toList_integerText (n : ℤ) :
    (integerText n).toList = if n < 0 then '-' :: digits n.natAbs else digits n.natAbs := String.toList_ofList

end Decimal

namespace Binary64

theorem nearest_integer (n : Nat) : Decimal.nearest ⟨n, 0⟩ = nearestRank (n * unitsPerOne) 1 := by
  rw [Decimal.nearest, Decimal.steps, Decimal.gridFactors_of_nonneg (le_refl 0), Int.natAbs_zero, Nat.pow_zero,
    Nat.mul_one]

theorem read?_integerText (n : ℤ) : read? (Decimal.integerText n) = some (ofInt n) := by
  have hread : Decimal.read? (Decimal.integerText n).toList = some (decide (n < 0), ⟨n.natAbs, 0⟩) := by
    rw [Decimal.toList_integerText]
    by_cases hneg : n < 0
    · rw [if_pos hneg, decide_eq_true hneg]
      exact Decimal.read?_signed rfl
    · rw [if_neg hneg, decide_eq_false hneg]
      exact Decimal.read?_signed (Decimal.spanSign_digits _)
  rw [read?, read]
  split
  · next h =>
    rw [h] at hread
    cases hread
  · rw [hread, ofInt, ofRatio, ← nearest_integer]
    dsimp only
    rw [ofDecimal_eq]
    rfl

end Binary64

end Herbarium
