/-!
Joined and separated lists.

A list of parts joined by a separator is, seen from one part, all earlier parts each followed by the separator, the
part, and all later ones each preceded by it (`intercalate_append_cons`). Splitting at a separator gives one part more
than there are separators (`length_splitOn`). An occurrence is found by its number: `exists_occurrence` in one list,
`exists_member` in the list that several members contribute to.
-/

namespace Herbarium.Text

variable {α β : Type}

theorem intercalate_cons (sep part : List α) :
    ∀ post : List (List α), sep.intercalate (part :: post) = part ++ post.flatMap (sep ++ ·)
  | [] => by simp
  | next :: post => by
    rw [List.intercalate_cons_cons, intercalate_cons sep next post, List.flatMap_cons]
    simp only [List.append_assoc]

theorem intercalate_append_cons (sep part : List α) (post : List (List α)) : ∀ pre : List (List α),
    sep.intercalate (pre ++ part :: post) = pre.flatMap (· ++ sep) ++ part ++ post.flatMap (sep ++ ·)
  | [] => by
    rw [List.nil_append, intercalate_cons]
    rfl
  | first :: pre => by
    rw [List.cons_append, List.intercalate_cons_of_ne_nil (by simp), intercalate_append_cons sep part post pre,
      List.flatMap_cons]
    simp only [List.append_assoc]

theorem length_splitOn [BEq α] [LawfulBEq α] (a : α) (as : List α) :
    (as.splitOn a).length = as.count a + 1 := by
  induction as with
  | nil => rfl
  | cons b as ih =>
    rw [List.splitOn_cons_eq_if_modifyHead, List.count_cons]
    split
    · rw [List.length_cons, ih]
    · rw [List.length_modifyHead, ih, Nat.add_zero]

/-- The occurrences of a member are numbered by how many come before. -/
theorem exists_occurrence [BEq α] [LawfulBEq α] {a : α} {as : List α} {k : Nat} (h : k < as.count a) :
    ∃ left right, as = left ++ a :: right ∧ left.count a = k := by
  induction as generalizing k with
  | nil => cases h
  | cons b as ih =>
    by_cases hb : b = a
    · subst hb
      cases k with
      | zero => exact ⟨[], as, rfl, rfl⟩
      | succ k =>
        rw [List.count_cons_self] at h
        obtain ⟨left, right, rfl, hcount⟩ := ih (Nat.lt_of_succ_lt_succ h)
        exact ⟨b :: left, right, rfl, by rw [List.count_cons_self, hcount]⟩
    · rw [List.count_cons_of_ne hb] at h
      obtain ⟨left, right, rfl, hcount⟩ := ih h
      exact ⟨b :: left, right, rfl, by rw [List.count_cons_of_ne hb, hcount]⟩

/-- A place in what all members contribute is a place in the contribution of one of them. -/
theorem exists_member {f : α → List β} {as : List α} {k : Nat} (h : k < (as.flatMap f).length) :
    ∃ pre a post j, as = pre ++ a :: post ∧ k = (pre.flatMap f).length + j ∧ j < (f a).length ∧
      (as.flatMap f)[k]? = (f a)[j]? := by
  induction as generalizing k with
  | nil => cases h
  | cons a as ih =>
    rw [List.flatMap_cons, List.length_append] at h
    by_cases hk : k < (f a).length
    · refine ⟨[], a, as, k, rfl, by simp, hk, ?_⟩
      rw [List.flatMap_cons, List.getElem?_append_left hk]
    · obtain ⟨pre, a', post, j, rfl, hk', hj, hget⟩ := ih (k := k - (f a).length) (by omega)
      refine ⟨a :: pre, a', post, j, rfl, ?_, hj, ?_⟩
      · rw [List.flatMap_cons, List.length_append]
        omega
      · rw [List.flatMap_cons, List.getElem?_append_right (by omega), hget]

end Herbarium.Text
