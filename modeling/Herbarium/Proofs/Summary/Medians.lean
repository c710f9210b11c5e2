import Herbarium.Proofs.Summary.Statistics
import Herbarium.Proofs.Binary64.Averages

/-!
Where the median lies.

The median is half the rounded sum of the two middle lengths. While that sum is finite, its half is not before the
lower of the two and not behind the upper one, so the median lies between the least and the greatest length, and of an
odd count it is the length in the middle (`Extent.Middle.within`, `Extent.Middle.median_of_odd`). A sum too large for a
number makes the median the infinity of the sign of both, beyond every length (`Extent.Middle.overflow`); one length is
enough for that, since it is added to itself (`median_longest_not_within`).
-/

namespace Herbarium

/-- Whether the median of an extent is a number from the least to the greatest one. -/
structure Extent.Within (e : Extent) : Prop where
  isFinite : e.median.isFinite = true
  minimum_le : e.minimum.toReal ≤ e.median.toReal
  le_maximum : e.median.toReal ≤ e.maximum.toReal

variable {xs : List Binary64} {e : Extent} {upper lower : Binary64}

/-- The two middle values of numbers, of which an extent has the half sum. -/
structure Extent.Middle (e : Extent) (xs : List Binary64) (upper lower : Binary64) : Prop where
  hasRank_upper : HasRank Binary64.totalLe xs (xs.length / 2) upper
  hasRank_lower : HasRank Binary64.totalLe xs (xs.length - 1 - xs.length / 2) lower
  median_eq : e.median = (upper.add lower).half

namespace Extent.Middle

variable (h : e.Middle xs upper lower)

include h

theorem lower_le_upper : lower.totalLe upper = true :=
  h.hasRank_lower.le_of_rank_le Binary64.totalLe_linear h.hasRank_upper (by omega)

/-- The middle of an odd count is one value. -/
theorem eq_of_odd (hodd : xs.length % 2 = 1) : lower = upper := by
  refine Binary64.totalLe_linear.antisymm h.lower_le_upper ?_
  exact h.hasRank_upper.le_of_rank_le Binary64.totalLe_linear h.hasRank_lower (by omega)

variable (hfinite : ∀ x ∈ xs, x.isFinite = true)

include hfinite

theorem between (hsum : (upper.add lower).isFinite = true) :
    lower.totalLe e.median = true ∧ e.median.totalLe upper = true := by
  rw [h.median_eq]
  exact Binary64.half_add_between (hfinite _ h.hasRank_lower.mem) (hfinite _ h.hasRank_upper.mem) h.lower_le_upper hsum

theorem within (hdescribes : e.Describes xs) (hsum : (upper.add lower).isFinite = true) : e.Within := by
  obtain ⟨hlower, hupper⟩ := h.between hfinite hsum
  have hmedian : e.median.isFinite = true :=
    Binary64.isFinite_of_between (hfinite _ h.hasRank_lower.mem) (hfinite _ h.hasRank_upper.mem) hlower hupper
  have hminimum := hdescribes.minimum_le _ h.hasRank_lower.mem
  have hmaximum := hdescribes.le_maximum _ h.hasRank_upper.mem
  exact {
    isFinite := hmedian
    minimum_le := Binary64.toReal_mono (hfinite _ hdescribes.minimum_mem) hmedian
      (Binary64.totalLe_linear.trans hminimum hlower)
    le_maximum := Binary64.toReal_mono hmedian (hfinite _ hdescribes.maximum_mem)
      (Binary64.totalLe_linear.trans hupper hmaximum) }

theorem median_of_odd (hodd : xs.length % 2 = 1) (hsum : (upper.add lower).isFinite = true) : e.median = upper := by
  obtain ⟨hlower, hupper⟩ := h.between hfinite hsum
  rw [h.eq_of_odd hodd] at hlower
  exact Binary64.totalLe_linear.antisymm hupper hlower

theorem overflow (hsum : (upper.add lower).isFinite = false) : e.median = .infinity upper.negative :=
  h.median_eq.trans (Binary64.half_add_overflow (hfinite _ h.hasRank_upper.mem) (hfinite _ h.hasRank_lower.mem) hsum).2

end Extent.Middle

namespace Summary

/-- The median of a column of lengths lies between the least and the greatest one, and is the one in the middle if
their count is odd, as long as the sum of the two middle ones is before the midpoint above the largest number. From
there on it is the infinity of their sign. -/
theorem median_within {records : List Specimen} (hbuilt : ∀ r ∈ records, r.Built) (hne : records ≠ []) {field : Field}
    (hfield : field.type = .float) :
    let sorted := (records.map fun r => r.length field hfield).mergeSort Binary64.totalLe
    ∃ c e upper lower, (ofRecords records).lookup field.name = some c ∧ c.extent = some e ∧
      sorted[records.length / 2]? = some upper ∧ sorted[records.length - 1 - records.length / 2]? = some lower ∧
      (|upper.toReal + lower.toReal| < 2 ^ 1024 - 2 ^ 970 →
        e.Within ∧ (records.length % 2 = 1 → sorted[records.length / 2]? = some e.median)) ∧
      (2 ^ 1024 - 2 ^ 970 ≤ |upper.toReal + lower.toReal| → e.median = .infinity upper.negative) := by
  intro sorted
  have hcolumn := column_describes field records
  cases hextent : (column field records).extent with
  | none => exact absurd ((hcolumn.empty hfield).mp hextent) hne
  | some e =>
    have hdescribes := hcolumn.extent hfield e hextent
    obtain ⟨upper, lower, hupper, hlower, hmedian⟩ := hdescribes.median
    have hmiddle : e.Middle (records.map fun r => r.length field hfield) upper lower := ⟨hupper, hlower, hmedian⟩
    have hfinite : ∀ x ∈ records.map fun r => r.length field hfield, x.isFinite = true := by
      intro x hx
      obtain ⟨r, hr, rfl⟩ := List.mem_map.mp hx
      exact (hbuilt r hr).isFinite _ (r.length_mem hfield)
    have hlimit := Binary64.isFinite_add_iff_toReal (hfinite _ hupper.mem) (hfinite _ hlower.mem)
    have hplace := hupper.getElem?_mergeSort Binary64.totalLe_linear
    have hplace' := hlower.getElem?_mergeSort Binary64.totalLe_linear
    rw [List.length_map] at hplace hplace'
    refine ⟨_, e, upper, lower, lookup_ofRecords field records, hextent, hplace, hplace', fun hsum => ⟨?_, ?_⟩, ?_⟩
    · exact hmiddle.within hfinite hdescribes (hlimit.mpr hsum)
    · intro hodd
      rw [← List.length_map] at hodd
      rw [hmiddle.median_of_odd hfinite hodd (hlimit.mpr hsum)]
      exact hplace
    · intro hsum
      rw [← not_lt, ← hlimit, Bool.not_eq_true] at hsum
      exact hmiddle.overflow hfinite hsum

/-- Specimens whose sepals are as long as can be, in either sign, and one between them. -/
def farApart : List Specimen := [{ sepalLength := .largest true }, {}, { sepalLength := .largest false }]

/-- A specimen whose sepals are as long as can be. -/
def longest : Specimen := { sepalLength := .largest false }

theorem median_within_farApart :
    (∃ c e, (ofRecords farApart).lookup "sepal_length" = some c ∧ c.extent = some e ∧ e.Within ∧ e.median = .zero) ∧
    ∃ c e, (ofRecords [longest]).lookup "sepal_length" = some c ∧ c.extent = some e ∧ e.median = .infinity false := by
  have hfield : Field.sepalLength.type = .float := rfl
  have hlongest : (Binary64.largest false).isFinite = true := rfl
  constructor
  · have hbuilt : ∀ r ∈ farApart, r.Built := Specimen.built_of_isFinite (by decide)
    obtain ⟨c, e, upper, lower, hlookup, hextent, hupper, hlower, hfits, _⟩ := median_within hbuilt (by decide) hfield
    have hrising : [Binary64.largest true, .zero, .largest false].Pairwise fun x y => x.totalLe y = true := by decide
    have hsorted : (farApart.map fun r => r.length .sepalLength hfield).mergeSort Binary64.totalLe =
        [.largest true, .zero, .largest false] := List.mergeSort_of_pairwise hrising
    rw [hsorted] at hupper hlower hfits
    obtain rfl : Binary64.zero = upper := Option.some.inj hupper
    obtain rfl : Binary64.zero = lower := Option.some.inj hlower
    have hsum := (Binary64.isFinite_add_iff_toReal (x := .zero) (y := .zero) rfl rfl).mp (by decide +kernel)
    obtain ⟨hwithin, hodd⟩ := hfits hsum
    exact ⟨c, e, hlookup, hextent, hwithin, (Option.some.inj (hodd rfl)).symm⟩
  · have hbuilt : ∀ r ∈ [longest], r.Built := Specimen.built_of_isFinite (by decide)
    obtain ⟨c, e, upper, lower, hlookup, hextent, hupper, hlower, _, hbeyond⟩ := median_within hbuilt (by decide) hfield
    rw [List.map_singleton, List.mergeSort_singleton] at hupper hlower
    obtain rfl : Binary64.largest false = upper := Option.some.inj hupper
    obtain rfl : Binary64.largest false = lower := Option.some.inj hlower
    have hsum := (Binary64.isFinite_add_iff_toReal hlongest hlongest).not.mp (by decide +kernel)
    exact ⟨c, e, hlookup, hextent, hbeyond (not_lt.mp hsum)⟩

/-- The median of one length as long as can be is not that length. -/
theorem median_longest_not_within :
    ¬ ∀ records : List Specimen, (∀ r ∈ records, r.Built) → records ≠ [] → ∀ field : Field, field.type = .float →
      ∃ c e, (ofRecords records).lookup field.name = some c ∧ c.extent = some e ∧ e.Within := by
  intro h
  have hbuilt : ∀ r ∈ [longest], r.Built := Specimen.built_of_isFinite (by decide)
  obtain ⟨c, e, hlookup, hextent, hwithin⟩ := h [longest] hbuilt (by decide) .sepalLength rfl
  rw [lookup_ofRecords, Option.some.injEq] at hlookup
  rw [← hlookup, column_length rfl, List.map_singleton, List.mergeSort_singleton] at hextent
  obtain rfl := Option.some.inj hextent
  exact absurd hwithin.isFinite (by decide +kernel)

end Summary

end Herbarium
