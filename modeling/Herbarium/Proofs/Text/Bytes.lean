import Herbarium.Database.Comparison

/-!
Texts as bytes.

Texts are compared code point by code point. That is the order of their bytes in UTF-8: of two code points the smaller
one has the smaller bytes, whatever follows (`utf8EncodeChar_lt`), so the first code point in which two texts differ
decides the order of their bytes as well (`bytes_lt`).
-/

namespace Herbarium.Text

/-- The bytes of a text in UTF-8. -/
def bytes (s : String) : List UInt8 := s.toUTF8.data.toList

theorem bytes_eq (s : String) : bytes s = s.toList.flatMap String.utf8EncodeChar := by
  rw [bytes, String.toUTF8_eq_toByteArray, ← String.utf8Encode_toList, List.utf8Encode, List.toList_data_toByteArray]

/-- The first bytes that differ decide. -/
theorem ofNat_cons_lt {a b : Nat} (ha : a < 256) (hb : b < 256) {rest rest' : List UInt8} :
    UInt8.ofNat a :: rest < UInt8.ofNat b :: rest' ↔ a < b ∨ a = b ∧ rest < rest' := by
  rw [List.cons_lt_cons_iff, UInt8.lt_iff_toNat_lt, ← UInt8.toNat_inj, UInt8.toNat_ofNat_of_lt' ha,
    UInt8.toNat_ofNat_of_lt' hb]

/-- The smaller code point has the smaller bytes, whatever follows. -/
theorem utf8EncodeChar_lt {c d : Char} (h : c < d) (rest rest' : List UInt8) :
    String.utf8EncodeChar c ++ rest < String.utf8EncodeChar d ++ rest' := by
  have hval : c.val.toNat < d.val.toNat := UInt32.lt_iff_toNat_lt.mp h
  have hmax : d.val.toNat < 0x110000 := by
    rcases d.valid with hlow | ⟨_, hhigh⟩
    · exact Nat.lt_trans hlow (by decide)
    · exact hhigh
  unfold String.utf8EncodeChar
  generalize c.val.toNat = v at hval
  generalize d.val.toNat = w at hval hmax
  -- the bytes are the digits to the base 64, with the length marked in the first one
  have hdigits : ∀ n : Nat, n / 4096 = n / 64 / 64 ∧ n / 262144 = n / 64 / 64 / 64 := by
    intro n
    rw [Nat.div_div_eq_div_mul, Nat.div_div_eq_div_mul]
    exact ⟨rfl, rfl⟩
  simp only [(hdigits v).1, (hdigits v).2, (hdigits w).1, (hdigits w).2]
  -- codes of different lengths differ in the mark, codes of one length in a digit
  repeat' split
  all_goals
    simp (disch := omega) only [List.cons_append, List.nil_append, ofNat_cons_lt]
    omega

theorem flatMap_utf8EncodeChar_lt : ∀ {cs ds : List Char}, cs < ds →
    cs.flatMap String.utf8EncodeChar < ds.flatMap String.utf8EncodeChar
  | cs, [], h => absurd h (List.not_lt_nil cs)
  | [], d :: ds, _ => by
    obtain ⟨b, rest, hb⟩ := List.exists_cons_of_ne_nil (String.utf8EncodeChar_ne_nil (c := d))
    rw [List.flatMap_nil, List.flatMap_cons, hb]
    exact List.nil_lt_cons b _
  | c :: cs, d :: ds, h => by
    rw [List.flatMap_cons, List.flatMap_cons]
    rcases List.cons_lt_cons_iff.mp h with hlt | ⟨rfl, hrest⟩
    · exact utf8EncodeChar_lt hlt _ _
    · exact List.append_left_lt (flatMap_utf8EncodeChar_lt hrest)

variable {s t : String}

theorem bytes_lt (h : s < t) : bytes s < bytes t := by
  rw [bytes_eq, bytes_eq]
  exact flatMap_utf8EncodeChar_lt h

theorem lt_trichotomy (s t : String) : s < t ∨ s = t ∨ t < s := by
  by_cases hlt : s.toList < t.toList
  · exact Or.inl hlt
  · rcases List.le_iff_lt_or_eq.mp (List.not_lt.mp hlt) with hgt | heq
    · exact Or.inr (Or.inr hgt)
    · exact Or.inr (Or.inl (String.toList_inj.mp heq.symm))

theorem bytes_injective (h : bytes s = bytes t) : s = t := by
  rcases lt_trichotomy s t with hlt | heq | hgt
  · exact absurd (h ▸ bytes_lt hlt) (List.lt_irrefl _)
  · exact heq
  · exact absurd (h ▸ bytes_lt hgt) (List.lt_irrefl _)

theorem bytes_lt_iff : bytes s < bytes t ↔ s < t := by
  refine ⟨fun h => ?_, bytes_lt⟩
  rcases lt_trichotomy s t with hlt | rfl | hgt
  · exact hlt
  · exact absurd h (List.lt_irrefl _)
  · exact absurd h (List.lt_asymm (bytes_lt hgt))

/-- Texts compare as their bytes. -/
theorem compareText_cases (s t : String) :
    (compareText s t = .lt ↔ bytes s < bytes t) ∧ (compareText s t = .eq ↔ bytes s = bytes t) ∧
      (compareText s t = .gt ↔ bytes t < bytes s) := by
  have hbytes : bytes s = bytes t ↔ s = t := ⟨bytes_injective, congrArg bytes⟩
  rw [bytes_lt_iff, bytes_lt_iff, hbytes, compareText]
  rcases lt_trichotomy s t with hlt | rfl | hgt
  · have hne : s ≠ t := fun heq => String.lt_irrefl t (heq ▸ hlt)
    have hngt : ¬ t < s := String.lt_asymm hlt
    simp only [hlt, hne, hngt, if_true, reduceCtorEq, and_self]
  · have hnlt : ¬ s < s := String.lt_irrefl s
    simp only [hnlt, if_false, if_true, reduceCtorEq, and_self]
  · have hne : s ≠ t := fun heq => String.lt_irrefl t (heq ▸ hgt)
    have hnlt : ¬ s < t := String.lt_asymm hgt
    simp only [hgt, hne, hnlt, if_false, reduceCtorEq, and_self]

end Herbarium.Text
