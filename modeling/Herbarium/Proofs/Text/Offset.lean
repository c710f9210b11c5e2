import Herbarium.Text.Offset

/-!
Cuts at the ends of characters.

A position that is the length of some characters a text starts with cuts the text after them (`dropBytes?_append`,
`takeBytes?_append`), and the characters from there on are passed together with these bytes (`dropWhile_indices`).
Conversely, what a cut takes is a beginning of the text of that length (`takeBytes?_eq_some`).
-/

namespace Herbarium.Text

theorem byteLength_nil : byteLength [] = 0 := rfl

theorem foldl_utf8Size (cs : List Char) (n : Nat) : cs.foldl (fun n c => n + c.utf8Size) n = n + byteLength cs := by
  induction cs generalizing n with
  | nil => rfl
  | cons c cs ih => rw [byteLength, List.foldl_cons, List.foldl_cons, ih, ih (0 + _), Nat.zero_add, Nat.add_assoc]

theorem byteLength_cons (c : Char) (cs : List Char) : byteLength (c :: cs) = c.utf8Size + byteLength cs := by
  rw [byteLength, List.foldl_cons, foldl_utf8Size, Nat.zero_add]

theorem byteLength_append (cs ds : List Char) : byteLength (cs ++ ds) = byteLength cs + byteLength ds := by
  rw [byteLength, List.foldl_append, foldl_utf8Size, ← byteLength]

theorem dropBytes?_zero (cs : List Char) : dropBytes? 0 cs = some cs := by
  cases cs <;> rfl

/-- A cut behind the first character. -/
theorem dropBytes?_cons (c : Char) (n : Nat) (cs : List Char) :
    dropBytes? (c.utf8Size + n) (c :: cs) = dropBytes? n cs := by
  obtain ⟨k, hk⟩ : ∃ k, c.utf8Size + n = k + 1 := ⟨c.utf8Size + n - 1, by have := c.utf8Size_pos; omega⟩
  rw [hk, dropBytes?, if_pos (by omega)]
  congr 1
  omega

theorem dropBytes?_append : ∀ cs ds : List Char, dropBytes? (byteLength cs) (cs ++ ds) = some ds
  | [], ds => dropBytes?_zero ds
  | c :: cs, ds => by
    rw [byteLength_cons, List.cons_append, dropBytes?_cons, dropBytes?_append cs ds]

theorem takeBytes?_cons (c : Char) (n : Nat) (cs : List Char) :
    takeBytes? (c.utf8Size + n) (c :: cs) = (takeBytes? n cs).map (c :: ·) := by
  obtain ⟨k, hk⟩ : ∃ k, c.utf8Size + n = k + 1 := ⟨c.utf8Size + n - 1, by have := c.utf8Size_pos; omega⟩
  have hn : k + 1 - c.utf8Size = n := by omega
  rw [hk, takeBytes?, if_pos (by omega), hn]

theorem takeBytes?_append : ∀ cs ds : List Char, takeBytes? (byteLength cs) (cs ++ ds) = some cs
  | [], ds => by cases ds <;> rfl
  | c :: cs, ds => by
    rw [byteLength_cons, List.cons_append, takeBytes?_cons, takeBytes?_append cs ds, Option.map_some]

/-- What a cut takes is a beginning of the text. -/
theorem takeBytes?_eq_some {n : Nat} {cs taken : List Char} (h : takeBytes? n cs = some taken) :
    ∃ rest, cs = taken ++ rest ∧ byteLength taken = n := by
  induction cs generalizing n taken with
  | nil =>
    cases n with
    | zero =>
      cases h
      exact ⟨[], rfl, rfl⟩
    | succ n => cases h
  | cons c cs ih =>
    cases n with
    | zero =>
      cases h
      exact ⟨c :: cs, rfl, rfl⟩
    | succ n =>
      rw [takeBytes?] at h
      split at h
      case isTrue hsize =>
        obtain ⟨taken', htaken, rfl⟩ := Option.map_eq_some_iff.mp h
        obtain ⟨rest, rfl, hlength⟩ := ih htaken
        refine ⟨rest, rfl, ?_⟩
        rw [byteLength_cons, hlength]
        omega
      case isFalse => cases h

/-- A slice behind the first character. -/
theorem slice?_cons (c : Char) (n : Nat) (cs : List Char) :
    slice? c.utf8Size n (c :: cs) = takeBytes? n cs := by
  have hdrop : dropBytes? c.utf8Size (c :: cs) = some cs := by
    have h := dropBytes?_cons c 0 cs
    rwa [Nat.add_zero, dropBytes?_zero] at h
  rw [slice?, hdrop, Option.bind_some]

/-- The characters that start before the end of some characters are these. -/
theorem dropWhile_indices (start : Nat) (cs ds : List Char) :
    (indices start (cs ++ ds)).dropWhile (fun p => p.1 < start + byteLength cs) =
      indices (start + byteLength cs) ds := by
  induction cs generalizing start with
  | nil =>
    -- the first character left starts where the others end
    cases ds with
    | nil => rfl
    | cons d ds =>
      rw [List.nil_append, indices, List.dropWhile_cons_of_neg (by simp [byteLength_nil])]
      simp [byteLength_nil, indices]
  | cons c cs ih =>
    have hpos := c.utf8Size_pos
    have hend : start + byteLength (c :: cs) = start + c.utf8Size + byteLength cs := by
      rw [byteLength_cons, Nat.add_assoc]
    rw [List.cons_append, indices, List.dropWhile_cons_of_pos (by simp [byteLength_cons]; omega), hend, ih]

end Herbarium.Text
