import Mathlib.Data.List.DropRight
import Herbarium.Text.Blank

/-!
Trimmed texts.

What is taken off one end of a text does not depend on what is taken off the other (`dropWhile_trimEndMatches`), so a
text that was trimmed at its end is trimmed to the same text as before. Nothing is taken off before a character that
stays (`trimEndMatches_append`). Around a text whose ends stay, `Keeps`, the two sides are trimmed each for itself
(`Keeps.trimMatches_append`), and what is left of any text is nothing or such a text (`keeps_trimMatches`).
-/

namespace Herbarium.Text

variable {p : Char → Bool}

/-- The end of a text is trimmed before its first character is looked at. -/
theorem trimEndMatches_cons (c : Char) (cs : List Char) :
    trimEndMatches p (c :: cs) = if p c = true ∧ trimEndMatches p cs = [] then [] else c :: trimEndMatches p cs := by
  rw [trimEndMatches, trimEndMatches, List.reverse_cons, List.dropWhile_append]
  cases hrest : cs.reverse.dropWhile p with
  | nil =>
    cases hc : p c with
    | true => simp [hc]
    | false => simp [hc]
  | cons d ds => simp

theorem trimEndMatches_keep {c : Char} (hc : p c = false) (cs : List Char) :
    trimEndMatches p (c :: cs) = c :: trimEndMatches p cs := by
  rw [trimEndMatches_cons, if_neg fun h => Bool.false_ne_true (hc.symm.trans h.1)]

theorem trimEndMatches_idem (cs : List Char) : trimEndMatches p (trimEndMatches p cs) = trimEndMatches p cs := by
  induction cs with
  | nil => rfl
  | cons c cs ih =>
    rw [trimEndMatches_cons]
    split
    case isTrue => rfl
    case isFalse h => rw [trimEndMatches_cons, ih, if_neg h]

/-- The ends of a text are trimmed in any order. -/
theorem dropWhile_trimEndMatches (cs : List Char) :
    (trimEndMatches p cs).dropWhile p = trimEndMatches p (cs.dropWhile p) := by
  induction cs with
  | nil => rfl
  | cons c cs ih =>
    cases hc : p c with
    | true =>
      rw [trimEndMatches_cons, List.dropWhile_cons_of_pos hc, ← ih]
      split
      case isTrue h => rw [h.2]
      case isFalse => rw [List.dropWhile_cons_of_pos hc]
    | false =>
      have hkeep : ¬ p c = true := ne_true_of_eq_false hc
      rw [trimEndMatches_keep hc, List.dropWhile_cons_of_neg hkeep, List.dropWhile_cons_of_neg hkeep,
        trimEndMatches_keep hc]

theorem trimMatches_trimEndMatches (cs : List Char) : trimMatches p (trimEndMatches p cs) = trimMatches p cs := by
  rw [trimMatches, dropWhile_trimEndMatches, trimEndMatches_idem, trimMatches]

theorem trimMatches_idem (cs : List Char) : trimMatches p (trimMatches p cs) = trimMatches p cs := by
  have hfront : trimMatches p (cs.dropWhile p) = trimMatches p cs := by
    rw [trimMatches, List.dropWhile_idempotent, trimMatches]
  exact (trimMatches_trimEndMatches (cs.dropWhile p)).trans hfront

theorem trim_trim (s : String) : trim (trim s) = trim s := by
  rw [trim, trim, String.toList_ofList, trimChars, trimChars, trimMatches_idem]

/-- Behind a character that stays, only the end is trimmed. -/
theorem trimEndMatches_append {c : Char} (hc : p c = false) (front cs : List Char) :
    trimEndMatches p (front ++ c :: cs) = front ++ c :: trimEndMatches p cs := by
  induction front with
  | nil => rw [List.nil_append, trimEndMatches_keep hc, List.nil_append]
  | cons d front ih => rw [List.cons_append, trimEndMatches_cons, ih, if_neg fun h => by simp at h, List.cons_append]

theorem trimMatches_eq_self {cs : List Char} (h : ∀ c ∈ cs, p c = false) : trimMatches p cs = cs := by
  have hkeep : ∀ ds : List Char, (∀ c ∈ ds, p c = false) → ds.dropWhile p = ds := by
    intro ds hds
    cases ds with
    | nil => rfl
    | cons d ds => exact List.dropWhile_cons_of_neg (ne_true_of_eq_false (hds d List.mem_cons_self))
  rw [trimMatches, hkeep cs h, trimEndMatches, hkeep cs.reverse fun c hc => h c (List.mem_reverse.mp hc),
    List.reverse_reverse]

theorem mem_dropWhile {c : Char} (hc : p c = false) {cs : List Char} (h : c ∈ cs) : c ∈ cs.dropWhile p := by
  induction cs with
  | nil => cases h
  | cons d cs ih =>
    cases hd : p d with
    | false => simpa [hd] using h
    | true =>
      have hne : c ≠ d := fun hcd => by simp [← hcd, hc] at hd
      simpa [hd] using ih ((List.mem_cons.mp h).resolve_left hne)

/-- No character outside the class is lost. -/
theorem mem_trimMatches {c : Char} (hc : p c = false) {cs : List Char} (h : c ∈ cs) : c ∈ trimMatches p cs := by
  rw [trimMatches, trimEndMatches, List.mem_reverse]
  apply mem_dropWhile hc
  rw [List.mem_reverse]
  exact mem_dropWhile hc h

theorem length_trimMatches_le (cs : List Char) : (trimMatches p cs).length ≤ cs.length := by
  rw [trimMatches, trimEndMatches, List.length_reverse]
  calc ((cs.dropWhile p).reverse.dropWhile p).length ≤ (cs.dropWhile p).reverse.length :=
        (List.dropWhile_sublist p).length_le
    _ = (cs.dropWhile p).length := List.length_reverse
    _ ≤ cs.length := (List.dropWhile_sublist p).length_le

/-! ## Around a text that stays -/

/-- A text whose ends are outside a class. -/
structure Keeps (p : Char → Bool) (cs : List Char) : Prop where
  ne_nil : cs ≠ []
  first : ∀ c ∈ cs.head?, p c = false
  last : ∀ c ∈ cs.getLast?, p c = false

theorem Keeps.reverse {cs : List Char} (h : Keeps p cs) : Keeps p cs.reverse where
  ne_nil := by simpa using h.ne_nil
  first := by simpa using h.last
  last := by simpa using h.first

theorem Keeps.dropWhile_append {cs : List Char} (h : Keeps p cs) (front back : List Char) :
    (front ++ cs ++ back).dropWhile p = front.dropWhile p ++ cs ++ back := by
  obtain ⟨c, rest, rfl⟩ := List.exists_cons_of_ne_nil h.ne_nil
  have hc : p c = false := h.first c rfl
  induction front with
  | nil => simp [hc]
  | cons d front ih =>
    cases hd : p d with
    | true => simpa [hd] using ih
    | false => simp [hd]

/-- What stands before a text that stays is trimmed at its start, what stands behind it at its end. -/
theorem Keeps.trimMatches_append {cs : List Char} (h : Keeps p cs) (front back : List Char) :
    trimMatches p (front ++ cs ++ back) = front.dropWhile p ++ cs ++ (back.reverse.dropWhile p).reverse := by
  have hend := h.reverse.dropWhile_append back.reverse (front.dropWhile p).reverse
  rw [trimMatches, h.dropWhile_append, trimEndMatches]
  simp only [List.reverse_append, List.append_assoc] at hend ⊢
  rw [hend]
  simp

theorem Keeps.trimMatches_self {cs : List Char} (h : Keeps p cs) : trimMatches p cs = cs := by
  simpa using h.trimMatches_append [] []

theorem head?_dropWhile {cs : List Char} : ∀ c ∈ (cs.dropWhile p).head?, p c = false := by
  intro c hc
  have hhead := List.head?_dropWhile_not p cs
  rw [hc] at hhead
  simpa using hhead

/-- What is left of a text has its ends outside the class. -/
theorem keeps_trimMatches {cs : List Char} (h : trimMatches p cs ≠ []) : Keeps p (trimMatches p cs) where
  ne_nil := h
  first := by
    rw [trimMatches, ← dropWhile_trimEndMatches]
    exact head?_dropWhile
  last := by
    rw [trimMatches, trimEndMatches, List.getLast?_reverse]
    exact head?_dropWhile

/-- A text that starts outside the class is what is left of it and the characters taken off its end. -/
theorem exists_trimMatches_append {cs : List Char} (h : ∀ c ∈ cs.head?, p c = false) :
    ∃ back, cs = trimMatches p cs ++ back := by
  have hfront : cs.dropWhile p = cs := by
    cases cs with
    | nil => rfl
    | cons c cs => exact List.dropWhile_cons_of_neg (ne_true_of_eq_false (h c rfl))
  refine ⟨(cs.reverse.takeWhile p).reverse, ?_⟩
  rw [trimMatches, hfront, trimEndMatches, ← List.reverse_append, List.takeWhile_append_dropWhile,
    List.reverse_reverse]

/-- Whatever stands between two texts that stay, the whole stays. -/
theorem Keeps.append {cs ds : List Char} (hcs : Keeps p cs) (hds : Keeps p ds) (between : List Char) :
    Keeps p (cs ++ (between ++ ds)) where
  ne_nil := List.append_ne_nil_of_left_ne_nil hcs.ne_nil _
  first := by
    rw [List.head?_append_of_ne_nil _ hcs.ne_nil]
    exact hcs.first
  last := by
    rw [← List.append_assoc, List.getLast?_append_of_ne_nil _ hds.ne_nil]
    exact hds.last

/-- Characters of the class behind a text that stays are taken off. -/
theorem Keeps.trimMatches_back {cs back : List Char} (h : Keeps p cs) (hback : ∀ c ∈ back, p c = true) :
    trimMatches p (cs ++ back) = cs := by
  have htrim := h.trimMatches_append [] back
  have hall : back.reverse.dropWhile p = [] :=
    List.dropWhile_eq_nil_iff.mpr fun c hc => hback c (List.mem_reverse.mp hc)
  rwa [hall, List.reverse_nil, List.append_nil, List.nil_append] at htrim

end Herbarium.Text
