import Herbarium.Proofs.Specimen.Construction
import Herbarium.Proofs.Summary.Ranks

/-!
What a summary says.

The statistics of a column are described by its values alone: how many there are, how many differ, and of lengths the
least, the greatest and the median, which is half the sum of the two values of the middle ranks
(`Extent.Describes`, `ColumnSummary.Describes`). A summary has the statistics of every field, under its name, and they
describe the column, however long it is; specimens in another order have the same summary (`ofRecords_statistics`).
-/

namespace Herbarium

/-- Whether an extent is that of numbers. -/
structure Extent.Describes (e : Extent) (xs : List Binary64) : Prop where
  minimum_mem : e.minimum ∈ xs
  minimum_le : ∀ x ∈ xs, e.minimum.totalLe x = true
  maximum_mem : e.maximum ∈ xs
  le_maximum : ∀ x ∈ xs, x.totalLe e.maximum = true
  /-- Both middle ranks are ranks of the numbers. -/
  middle : xs.length / 2 < xs.length ∧ xs.length - 1 - xs.length / 2 < xs.length
  median : ∃ upper lower, HasRank Binary64.totalLe xs (xs.length / 2) upper ∧
    HasRank Binary64.totalLe xs (xs.length - 1 - xs.length / 2) lower ∧ e.median = (upper.add lower).half

theorem Extent.Describes.perm {e : Extent} {xs ys : List Binary64} (h : e.Describes xs) (hperm : xs.Perm ys) :
    e.Describes ys where
  minimum_mem := hperm.mem_iff.mp h.minimum_mem
  minimum_le x hx := h.minimum_le x (hperm.mem_iff.mpr hx)
  maximum_mem := hperm.mem_iff.mp h.maximum_mem
  le_maximum x hx := h.le_maximum x (hperm.mem_iff.mpr hx)
  middle := hperm.length_eq ▸ h.middle
  median := by
    obtain ⟨upper, lower, hupper, hlower, hmedian⟩ := h.median
    rw [← hperm.length_eq]
    exact ⟨upper, lower, hupper.perm hperm, hlower.perm hperm, hmedian⟩

/-- Whether the statistics of a column are those of a field among specimens. -/
structure ColumnSummary.Describes (c : ColumnSummary) (field : Field) (records : List Specimen) : Prop where
  typeName : c.typeName = field.typeName
  total : c.total = records.length
  unique : c.unique = (records.map fun r => r.get field).toFinset.card
  /-- The species has no extent. -/
  species : field.type = .string → c.extent = none
  /-- Lengths have an extent if there are any. -/
  empty (h : field.type = .float) : c.extent = none ↔ records = []
  extent (h : field.type = .float) : ∀ e ∈ c.extent, e.Describes (records.map fun r => r.length field h)

namespace Summary

variable {sorted : List Binary64} {records records' : List Specimen} {field : Field}

/-! ## The extent of a sorted list -/

theorem extentOf_eq_none : extentOf sorted = none ↔ sorted = [] := by
  constructor
  · intro h
    by_contra hne
    have hlength := List.length_pos_iff.mpr hne
    have hupper : sorted.length / 2 < sorted.length := by omega
    have hlower : sorted.length - 1 - sorted.length / 2 < sorted.length := by omega
    rw [extentOf, List.head?_eq_some_head hne, List.getLast?_eq_some_getLast hne, median,
      List.getElem?_eq_getElem hupper, List.getElem?_eq_getElem hlower] at h
    cases h
  · rintro rfl
    rfl

theorem totalLe_getLast (hsorted : sorted.Pairwise fun x y => x.totalLe y = true) (hne : sorted ≠ []) :
    ∀ x ∈ sorted, x.totalLe (sorted.getLast hne) = true := by
  have hsplit := List.dropLast_append_getLast hne
  have hparts := hsorted
  rw [← hsplit, List.pairwise_append] at hparts
  intro x hx
  rw [← hsplit, List.mem_append, List.mem_singleton] at hx
  rcases hx with hx | hx
  · exact hparts.2.2 x hx _ (List.mem_singleton_self _)
  · rw [← hx]
    exact Binary64.totalLe_linear.refl x

theorem totalLe_head (hsorted : sorted.Pairwise fun x y => x.totalLe y = true) {a : Binary64}
    (ha : sorted.head? = some a) : ∀ x ∈ sorted, a.totalLe x = true := by
  cases sorted with
  | nil => cases ha
  | cons b rest =>
    cases ha
    obtain ⟨hrest, _⟩ := List.pairwise_cons.mp hsorted
    exact List.forall_mem_cons.mpr ⟨Binary64.totalLe_linear.refl a, hrest⟩

theorem extentOf_sorted (hsorted : sorted.Pairwise fun x y => x.totalLe y = true) {e : Extent}
    (h : extentOf sorted = some e) : e.Describes sorted := by
  have hrank : ∀ {k : Nat} {a : Binary64}, sorted[k]? = some a → HasRank Binary64.totalLe sorted k a :=
    hasRank_of_sorted Binary64.totalLe_linear hsorted
  simp only [extentOf, median, Option.bind_eq_bind, Option.bind_eq_some_iff, Option.pure_def, Option.some.injEq] at h
  obtain ⟨minimum, hminimum, maximum, hmaximum, middle, ⟨upper, hupper, lower, hlower, rfl⟩, rfl⟩ := h
  have hne : sorted ≠ [] := List.ne_nil_of_mem (List.mem_of_head? hminimum)
  obtain rfl : sorted.getLast hne = maximum :=
    Option.some.inj ((List.getLast?_eq_some_getLast hne).symm.trans hmaximum)
  exact {
    minimum_mem := List.mem_of_head? hminimum
    minimum_le := totalLe_head hsorted hminimum
    maximum_mem := List.getLast_mem hne
    le_maximum := totalLe_getLast hsorted hne
    middle := ⟨(hrank hupper).lt_length, (hrank hlower).lt_length⟩
    median := ⟨upper, lower, hrank hupper, hrank hlower, rfl⟩ }

/-! ## Columns -/

theorem lengths_eq (h : field.type = .float) (records : List Specimen) :
    lengths field records = records.map fun r => r.length field h := by
  rw [lengths, ← List.filterMap_eq_map]
  refine List.filterMap_congr fun r _ => ?_
  rw [r.get_length h]
  rfl

theorem texts_eq (records : List Specimen) : texts .species records = records.map Specimen.species := rfl

theorem column_length (h : field.type = .float) (records : List Specimen) :
    column field records =
      { typeName := field.typeName, total := records.length,
        unique := (records.map fun r => r.length field h).toFinset.card,
        extent := extentOf ((records.map fun r => r.length field h).mergeSort Binary64.totalLe) } := by
  have hnumeric : field.type.isNumeric = true := by rw [h]; rfl
  rw [column, if_pos hnumeric, lengths_eq h, ← Binary64.totalLe_linear.runs_mergeSort]

theorem column_species (records : List Specimen) :
    column .species records =
      { typeName := Field.species.typeName, total := records.length,
        unique := (records.map Specimen.species).toFinset.card, extent := none } := by
  rw [column, if_neg (by decide), texts_eq, ← textLe_linear.runs_mergeSort]

theorem card_map_of_injective {α β γ : Type} [DecidableEq β] [DecidableEq γ] {f : β → γ} (hf : Function.Injective f)
    (g : α → β) (xs : List α) : (xs.map fun x => f (g x)).toFinset.card = (xs.map g).toFinset.card := by
  rw [← Finset.card_image_of_injective _ hf]
  congr 1
  ext c
  simp

theorem column_describes (field : Field) (records : List Specimen) :
    (column field records).Describes field records := by
  by_cases hfield : field = .species
  · subst hfield
    rw [column_species]
    exact {
      typeName := rfl
      total := rfl
      unique := (card_map_of_injective (fun _ _ => Value.text.inj) Specimen.species records).symm
      species := fun _ => rfl
      empty := fun h => absurd h (by decide)
      extent := fun h => absurd h (by decide) }
  · have h := Specimen.type_eq_float hfield
    have hget : (records.map fun r => r.get field) = records.map fun r => .real (r.length field h) :=
      List.map_congr_left fun r _ => r.get_length h
    rw [column_length h]
    exact {
      typeName := rfl
      total := rfl
      unique := by rw [hget, card_map_of_injective fun _ _ => Value.real.inj]
      species := fun hstring => absurd (h.symm.trans hstring) (by decide)
      empty := fun _ => by
        rw [extentOf_eq_none, ← List.length_eq_zero_iff, List.length_mergeSort, List.length_map,
          List.length_eq_zero_iff]
      extent := fun _ e he =>
        (extentOf_sorted (Binary64.totalLe_linear.pairwise_mergeSort _) he).perm (List.mergeSort_perm _ _) }

theorem column_congr (field : Field) (hperm : records.Perm records') :
    column field records' = column field records := by
  have hsame : ∀ {α : Type} [DecidableEq α] (f : Specimen → α),
      (records'.map f).toFinset = (records.map f).toFinset :=
    fun f => List.toFinset_eq_of_perm _ _ (hperm.symm.map f)
  by_cases hfield : field = .species
  · subst hfield
    rw [column_species, column_species, hperm.length_eq, hsame]
  · have h := Specimen.type_eq_float hfield
    rw [column_length h, column_length h, hperm.length_eq, hsame,
      Binary64.totalLe_linear.mergeSort_congr (hperm.map _)]

/-! ## Summaries -/

theorem lookup_ofRecords (field : Field) (records : List Specimen) :
    (ofRecords records).lookup field.name = some (column field records) := by
  cases field <;> rfl

/-- A summary has exactly the five fields, and the statistics of each describe its column: the count of the values, the
count of the different ones, and of lengths, if there are any, the least and the greatest in the total order and half
the sum of those of the two middle ranks. The order of the specimens plays no part. -/
theorem ofRecords_statistics (records : List Specimen) :
    (ofRecords records).map Prod.fst = order.map Field.name ∧ order.Perm Field.all ∧
    (∀ field, ∃ c, (ofRecords records).lookup field.name = some c ∧ c.Describes field records) ∧
    ∀ records', records.Perm records' → ofRecords records' = ofRecords records := by
  refine ⟨?_, by decide, fun field => ⟨_, lookup_ofRecords field records, column_describes field records⟩, ?_⟩
  · rw [ofRecords, List.map_map]
    rfl
  · intro records' hperm
    exact List.map_congr_left fun field _ => by rw [column_congr field hperm]

/-- Specimens whose sepals are zero long, in either sign. -/
def zeros : List Specimen := [{ sepalLength := .negativeZero }, {}, { species := "setosa" }]

theorem ofRecords_statistics_zeros :
    zeros.Perm zeros.reverse ∧ ofRecords zeros.reverse = ofRecords zeros ∧
    ∃ c, (ofRecords zeros).lookup "sepal_length" = some c ∧ c.total = 3 ∧ c.unique = 2 := by
  have hperm : zeros.Perm zeros.reverse := (List.reverse_perm zeros).symm
  obtain ⟨_, _, hcolumns, hsame⟩ := ofRecords_statistics zeros
  obtain ⟨c, hlookup, hc⟩ := hcolumns .sepalLength
  exact ⟨hperm, hsame _ hperm, c, hlookup, hc.total, hc.unique.trans (by decide)⟩

end Summary

end Herbarium
