import Herbarium.Summary
import Mathlib.Data.Finset.Card

/-!
Ranks.

The value of a rank is described without sorting: no more values than the rank are before it, and more than the rank are
not behind it (`HasRank`). In a linear order there is one value of each rank (`HasRank.unique`), and sorting puts it at
the place of its rank (`hasRank_of_sorted`, `HasRank.getElem?_mergeSort`). Sorting does not depend on how the list was
arranged before (`IsLinear.mergeSort_congr`), and since equal values then stand together, the runs of equal values count
the different ones (`IsLinear.runs_mergeSort`). Texts and bit patterns of numbers are sorted by linear orders.
-/

namespace Herbarium

variable {α : Type} {le : α → α → Bool}

/-- A linear order as a comparison. -/
structure IsLinear (le : α → α → Bool) : Prop where
  trans {a b c : α} : le a b = true → le b c = true → le a c = true
  total (a b : α) : le a b = true ∨ le b a = true
  antisymm {a b : α} : le a b = true → le b a = true → a = b

/-- Whether a value has a rank, counted from zero, among values. -/
structure HasRank (le : α → α → Bool) (xs : List α) (k : Nat) (a : α) : Prop where
  mem : a ∈ xs
  /-- No more values than the rank are before it. -/
  before : (xs.countP fun x => !le a x) ≤ k
  /-- More values than the rank are not behind it. -/
  upTo : k < xs.countP fun x => le x a

namespace IsLinear

variable (h : IsLinear le) {xs ys : List α}

include h

theorem refl (a : α) : le a a = true := (h.total a a).elim id id

theorem pairwise_mergeSort (xs : List α) : (xs.mergeSort le).Pairwise fun a b => le a b = true := by
  apply List.pairwise_mergeSort
  · intro a b c
    exact h.trans
  · intro a b
    rw [Bool.or_eq_true]
    exact h.total a b

/-- Sorting does not depend on the arrangement. -/
theorem mergeSort_congr (hperm : xs.Perm ys) : xs.mergeSort le = ys.mergeSort le := by
  refine List.Perm.eq_of_pairwise (fun a b _ _ => h.antisymm) (h.pairwise_mergeSort xs) (h.pairwise_mergeSort ys) ?_
  exact (List.mergeSort_perm xs le).trans (hperm.trans (List.mergeSort_perm ys le).symm)

/-- In a sorted list the runs of equal values count the different ones. -/
theorem runs_of_sorted [DecidableEq α] : ∀ {sorted : List α}, sorted.Pairwise (fun a b => le a b = true) →
    Summary.runs sorted = sorted.toFinset.card
  | [], _ => rfl
  | [_], _ => rfl
  | a :: b :: rest, hsorted => by
    obtain ⟨ha, hrest⟩ := List.pairwise_cons.mp hsorted
    have ih := runs_of_sorted hrest
    rw [Summary.runs, List.toFinset_cons]
    by_cases hab : a = b
    · subst hab
      rw [if_pos rfl, ih, Finset.insert_eq_of_mem (List.mem_toFinset.mpr List.mem_cons_self)]
    · -- the first value does not come again, for it would come behind the second one
      have hnew : a ∉ b :: rest := by
        intro hmem
        rcases List.mem_cons.mp hmem with heq | hmem
        · exact hab heq
        · exact hab (h.antisymm (ha b List.mem_cons_self) ((List.pairwise_cons.mp hrest).1 a hmem))
      rw [if_neg hab, ih, Finset.card_insert_of_notMem fun hmem => hnew (List.mem_toFinset.mp hmem)]

theorem runs_mergeSort [DecidableEq α] (xs : List α) : Summary.runs (xs.mergeSort le) = xs.toFinset.card := by
  rw [h.runs_of_sorted (h.pairwise_mergeSort xs), List.toFinset_eq_of_perm _ _ (List.mergeSort_perm xs le)]

end IsLinear

namespace HasRank

variable {xs ys : List α} {k : Nat} {a b : α}

theorem lt_length (ha : HasRank le xs k a) : k < xs.length := Nat.lt_of_lt_of_le ha.upTo List.countP_le_length

theorem perm (ha : HasRank le xs k a) (hperm : xs.Perm ys) : HasRank le ys k a where
  mem := hperm.mem_iff.mp ha.mem
  before := by
    rw [← hperm.countP_eq]
    exact ha.before
  upTo := by
    rw [← hperm.countP_eq]
    exact ha.upTo

-- if b were behind a, what is up to a would be before b
theorem le_of_rank_le {j : Nat} (hb : HasRank le xs j b) (h : IsLinear le) (ha : HasRank le xs k a) (hjk : j ≤ k) :
    le b a = true := by
  by_contra hba
  have hcount : (xs.countP fun x => le x a) ≤ xs.countP fun x => !le b x := by
    refine List.countP_mono_left fun x _ hxa => ?_
    rw [Bool.not_eq_true']
    exact Bool.eq_false_iff.mpr fun hbx => hba (h.trans hbx hxa)
  have hbefore := hb.before
  have hupTo := ha.upTo
  omega

/-- There is one value of a rank. -/
theorem unique (ha : HasRank le xs k a) (h : IsLinear le) (hb : HasRank le xs k b) : a = b :=
  h.antisymm (ha.le_of_rank_le h hb (Nat.le_refl k)) (hb.le_of_rank_le h ha (Nat.le_refl k))

end HasRank

/-! ## Sorted lists -/

variable {sorted front rest : List α} {k : Nat} {a : α}

theorem hasRank_between (h : IsLinear le) (hfront : ∀ x ∈ front, le x a = true) (hrest : ∀ x ∈ rest, le a x = true) :
    HasRank le (front ++ a :: rest) front.length a where
  mem := by simp
  before := by
    have hnone : (a :: rest).countP (fun x => !le a x) = 0 := by
      rw [List.countP_eq_zero, List.forall_mem_cons]
      exact ⟨by simp [h.refl a], fun x hx => by simp [hrest x hx]⟩
    rw [List.countP_append, hnone]
    exact List.countP_le_length
  upTo := by
    have hall : front.countP (fun x => le x a) = front.length := List.countP_eq_length.mpr hfront
    have hself : 0 < (a :: rest).countP fun x => le x a := List.countP_pos_iff.mpr ⟨a, List.mem_cons_self, h.refl a⟩
    rw [List.countP_append, hall]
    omega

/-- In a sorted list the value at a place has the place as its rank. -/
theorem hasRank_of_sorted (h : IsLinear le) (hsorted : sorted.Pairwise fun a b => le a b = true)
    (ha : sorted[k]? = some a) : HasRank le sorted k a := by
  obtain ⟨hk, rfl⟩ := List.getElem?_eq_some_iff.mp ha
  have hlength : (sorted.take k).length = k := List.length_take_of_le (Nat.le_of_lt hk)
  have hsplit : sorted.take k ++ sorted[k] :: sorted.drop (k + 1) = sorted := by
    rw [← List.drop_eq_getElem_cons hk, List.take_append_drop]
  have hparts := hsorted
  rw [← hsplit, List.pairwise_append, List.pairwise_cons] at hparts
  obtain ⟨_, ⟨hrest, _⟩, hfront⟩ := hparts
  have hrank := hasRank_between h (fun x hx => hfront x hx _ List.mem_cons_self) hrest
  rwa [hsplit, hlength] at hrank

/-- Sorting puts the value of a rank at the place of its rank. -/
theorem HasRank.getElem?_mergeSort {xs : List α} (ha : HasRank le xs k a) (h : IsLinear le) :
    (xs.mergeSort le)[k]? = some a := by
  have hk : k < (xs.mergeSort le).length := by
    rw [List.length_mergeSort]
    exact ha.lt_length
  have hplace := hasRank_of_sorted h (h.pairwise_mergeSort xs) (List.getElem?_eq_getElem hk)
  rw [List.getElem?_eq_getElem hk, (hplace.perm (List.mergeSort_perm xs le)).unique h ha]

/-! ## The orders of numbers and texts -/

theorem Binary64.orderKey_injective {x y : Binary64} (h : x.orderKey = y.orderKey) : x = y := by
  obtain ⟨negative, rank, _⟩ := x
  obtain ⟨negative', rank', _⟩ := y
  simp only [orderKey] at h
  cases negative <;> cases negative' <;> simp at h ⊢ <;> omega

theorem Binary64.totalLe_iff {x y : Binary64} : x.totalLe y = true ↔ x.orderKey ≤ y.orderKey := decide_eq_true_iff

theorem Binary64.totalLe_linear : IsLinear Binary64.totalLe where
  trans hxy hyz := by
    rw [totalLe_iff] at hxy hyz ⊢
    exact Int.le_trans hxy hyz
  total x y := by
    rw [totalLe_iff, totalLe_iff]
    exact Int.le_total _ _
  antisymm hxy hyx := by
    rw [totalLe_iff] at hxy hyx
    exact orderKey_injective (Int.le_antisymm hxy hyx)

theorem Summary.textLe_linear : IsLinear fun s t : String => decide (s ≤ t) where
  trans hst htu := by
    rw [decide_eq_true_iff] at hst htu ⊢
    exact String.le_trans hst htu
  total s t := by
    rw [decide_eq_true_iff, decide_eq_true_iff]
    exact String.le_total s t
  antisymm hst hts := by
    rw [decide_eq_true_iff] at hst hts
    exact String.le_antisymm hst hts

end Herbarium
