import Herbarium.Proofs.Text.Bytes
import Herbarium.Text.Utf8

/-!
Bytes read back as text.

The bytes of a character are read as that character, whatever follows (`next_utf8EncodeChar`): the first byte tells how
many follow and narrows the second one, which excludes only what no character is encoded to. So decoding finds nothing
to replace in the bytes of a text, and gives the text (`decodeLossy_bytes`).
-/

namespace Herbarium.Text.Utf8

/-! ## One character -/

theorem readFollowing_cons {value taken n low high b : Nat} (hb : b < 256) (hlow : low ≤ b) (hhigh : b ≤ high)
    (rest : List UInt8) :
    readFollowing value taken (n + 1) low high (UInt8.ofNat b :: rest) =
      readFollowing (value * 64 + (b - 0x80)) (taken + 1) n 0x80 0xBF rest := by
  rw [readFollowing, UInt8.toNat_ofNat_of_lt' hb, if_pos ⟨hlow, hhigh⟩]

theorem next_ascii {v : Nat} (hv : v < 0x80) (rest : List UInt8) :
    next (UInt8.ofNat v) rest = .character (Char.ofNat v) rest := by
  simp only [next, UInt8.toNat_ofNat_of_lt' (show v < 256 by omega), if_pos hv]

theorem next_of_following {first n low high : Nat} (hfirst : first < 256) (h : 0x80 ≤ first)
    (hfollowing : following? first = some (n, low, high)) (rest : List UInt8) :
    next (UInt8.ofNat first) rest =
      readFollowing (first - if n = 1 then 0xC0 else if n = 2 then 0xE0 else 0xF0) 1 n low high rest := by
  simp only [next, UInt8.toNat_ofNat_of_lt' hfirst, if_neg (show ¬ first < 0x80 by omega), hfollowing]

theorem following?_two {first : Nat} (hlow : 0xC2 ≤ first) (hhigh : first ≤ 0xDF) :
    following? first = some (1, 0x80, 0xBF) := by
  simp (disch := omega) only [following?, if_pos, if_neg]

/-- The first of three bytes narrows the second: no shorter encoding, no surrogate. -/
theorem following?_three {a b : Nat} (hlow : 0xE0 ≤ a) (hhigh : a ≤ 0xEF) (hb : 0x80 ≤ b ∧ b ≤ 0xBF)
    (hshort : a = 0xE0 → 0xA0 ≤ b) (hsurrogate : a = 0xED → b ≤ 0x9F) :
    ∃ low high, following? a = some (2, low, high) ∧ low ≤ b ∧ b ≤ high := by
  unfold following?
  simp (disch := omega) only [if_neg, if_pos]
  split
  · exact ⟨_, _, rfl, by omega, by omega⟩
  · split
    · exact ⟨_, _, rfl, by omega, by omega⟩
    · exact ⟨_, _, rfl, by omega, by omega⟩

theorem following?_four {a b : Nat} (hlow : 0xF0 ≤ a) (hhigh : a ≤ 0xF4) (hb : 0x80 ≤ b ∧ b ≤ 0xBF)
    (hshort : a = 0xF0 → 0x90 ≤ b) (hlast : a = 0xF4 → b ≤ 0x8F) :
    ∃ low high, following? a = some (3, low, high) ∧ low ≤ b ∧ b ≤ high := by
  unfold following?
  simp (disch := omega) only [if_neg]
  split
  · exact ⟨_, _, rfl, by omega, by omega⟩
  · split
    · exact ⟨_, _, rfl, by omega, by omega⟩
    · rw [if_pos (by omega)]
      exact ⟨_, _, rfl, by omega, by omega⟩

theorem code_cases (c : Char) : c.toNat < 0xD800 ∨ 0xDFFF < c.toNat ∧ c.toNat < 0x110000 := c.valid

/-- The bytes of a character are read as that character. -/
theorem next_utf8EncodeChar (c : Char) :
    ∃ b more, String.utf8EncodeChar c = b :: more ∧ ∀ rest, next b (more ++ rest) = .character c rest := by
  have hcode := code_cases c
  have hchar : Char.ofNat c.toNat = c := Char.ofNat_toNat c
  unfold String.utf8EncodeChar
  rw [show c.val.toNat = c.toNat from rfl]
  generalize c.toNat = v at hcode hchar
  subst hchar
  dsimp only
  split
  · exact ⟨_, _, rfl, fun rest => next_ascii (by omega) rest⟩
  split
  · refine ⟨_, _, rfl, fun rest => ?_⟩
    rw [next_of_following (by omega) (by omega) (following?_two (by omega) (by omega)), List.cons_append,
      readFollowing_cons (by omega) (by omega) (by omega), readFollowing]
    refine congrArg (fun w => Step.character (Char.ofNat w) rest) (?_ : _ = v)
    simp only [Nat.reduceEqDiff, if_true, if_false]
    omega
  split
  · refine ⟨_, _, rfl, fun rest => ?_⟩
    obtain ⟨low, high, hfollowing, hlow, hhigh⟩ := following?_three (a := v / 4096 % 16 + 224)
      (b := v / 64 % 64 + 128) (by omega) (by omega) (by omega) (by omega) (by omega)
    rw [next_of_following (by omega) (by omega) hfollowing, List.cons_append, List.cons_append,
      readFollowing_cons (by omega) hlow hhigh, readFollowing_cons (by omega) (by omega) (by omega), readFollowing]
    refine congrArg (fun w => Step.character (Char.ofNat w) rest) (?_ : _ = v)
    simp only [Nat.reduceEqDiff, if_true, if_false]
    omega
  · refine ⟨_, _, rfl, fun rest => ?_⟩
    obtain ⟨low, high, hfollowing, hlow, hhigh⟩ := following?_four (a := v / 262144 % 8 + 240)
      (b := v / 4096 % 64 + 128) (by omega) (by omega) (by omega) (by omega) (by omega)
    rw [next_of_following (by omega) (by omega) hfollowing, List.cons_append, List.cons_append, List.cons_append,
      readFollowing_cons (by omega) hlow hhigh, readFollowing_cons (by omega) (by omega) (by omega),
      readFollowing_cons (by omega) (by omega) (by omega), readFollowing]
    refine congrArg (fun w => Step.character (Char.ofNat w) rest) (?_ : _ = v)
    simp only [Nat.reduceEqDiff, if_false]
    omega

/-! ## A text -/

theorem decodeFrom_encode : ∀ (cs : List Char) (fuel : Nat) (read : List Char), (encode cs).length < fuel →
    decodeFrom fuel read (encode cs) = read.reverse ++ cs
  | [], fuel + 1, read, _ => by simp [encode, decodeFrom]
  | c :: cs, fuel + 1, read, h => by
    obtain ⟨b, more, hbytes, hnext⟩ := next_utf8EncodeChar c
    have hencode : encode (c :: cs) = b :: (more ++ encode cs) := by simp [encode, hbytes]
    have hfuel : (encode cs).length < fuel := by
      rw [hencode, List.length_cons, List.length_append] at h
      omega
    simp only [hencode, decodeFrom, hnext]
    rw [decodeFrom_encode cs fuel (c :: read) hfuel, List.reverse_cons, List.append_assoc]
    rfl

theorem decodeLossy_encode (cs : List Char) : decodeLossy (encode cs) = cs :=
  decodeFrom_encode cs _ [] (Nat.lt_succ_self _)

theorem decodeLossy_bytes (s : String) : decodeLossy (bytes s) = s.toList := by
  rw [bytes_eq]
  exact decodeLossy_encode s.toList

end Herbarium.Text.Utf8
