import Herbarium.Json.Parser
import Herbarium.Json.Printer
import Herbarium.Proofs.Outcome

/-!
Strings read back from JSON text.

Every character of a string is written in a form of its own that is read as that character, whatever follows it
(`readString_escapeChar`): most as themselves, quotes, backslashes and some controls by a backslash and a letter, the
other controls by their code point. The string follows by induction on its characters (`readText_escaped`).
-/

namespace Herbarium.Json

open Outcome

/-! ## Code points -/

theorem hexValue?_hexDigit : ∀ n < 16, Text.hexValue? (hexDigit n) = some n := by decide

theorem utf8Size_hexDigit : ∀ n < 16, (hexDigit n).utf8Size = 1 := by decide

theorem readUnit_control {c : Char} (hc : c.toNat < 32) (rest : List Char) :
    readUnit ('0' :: '0' :: hexDigit (c.toNat / 16) :: hexDigit (c.toNat % 16) :: rest) = .ok (c, rest) := by
  have hhigh : c.toNat / 16 < 16 := by omega
  have hlow : c.toNat % 16 < 16 := by omega
  have hvalues : hexValues? ['0', '0', hexDigit (c.toNat / 16), hexDigit (c.toNat % 16)] = some c.toNat := by
    have hzero : Text.hexValue? '0' = some 0 := by decide
    simp only [hexValues?, hzero, hexValue?_hexDigit _ hhigh, hexValue?_hexDigit _ hlow, Option.bind_eq_bind,
      Option.bind_some, Option.pure_def]
    congr 1
    omega
  have hlength : Text.byteLength ['0', '0', hexDigit (c.toNat / 16), hexDigit (c.toNat % 16)] = 4 := by
    simp only [Text.byteLength, List.foldl_cons, List.foldl_nil, utf8Size_hexDigit _ hhigh, utf8Size_hexDigit _ hlow]
    rfl
  have hread : readHex ('0' :: '0' :: hexDigit (c.toNat / 16) :: hexDigit (c.toNat % 16) :: rest) =
      .ok (c.toNat, rest) := by
    unfold readHex
    simp only [List.take_succ_cons, List.take_zero, List.drop_succ_cons, List.drop_zero]
    rw [hlength, if_neg (by decide), hvalues]
  unfold readUnit
  rw [hread, ok_bind]
  dsimp only
  rw [if_neg (by omega), if_pos (by omega), pure_eq_ok, Char.ofNat_toNat]

/-! ## Characters -/

/-- A character that is written is read back. -/
theorem readString_escapeChar (c : Char) (fuel : Nat) (read rest : List Char) :
    readString (fuel + 1) read (escapeChar c ++ rest) = readString fuel (c :: read) rest := by
  have hescape : ∀ cs, readEscape cs = .ok (c, rest) →
      readString (fuel + 1) read ('\\' :: cs) = readString fuel (c :: read) rest := by
    intro cs hcs
    rw [readString, if_neg (by decide), if_pos rfl, hcs]
  have hcode : ∀ n, c.toNat = n → Char.ofNat n = c := by
    rintro _ rfl
    exact Char.ofNat_toNat c
  unfold escapeChar
  by_cases hquote : c = '"'
  · rw [if_pos hquote]
    exact hescape _ (by rw [hquote]; rfl)
  rw [if_neg hquote]
  by_cases hbackslash : c = '\\'
  · rw [if_pos hbackslash]
    exact hescape _ (by rw [hbackslash]; rfl)
  rw [if_neg hbackslash]
  by_cases hfeed : c = '\n'
  · rw [if_pos hfeed]
    exact hescape _ (by rw [hfeed]; rfl)
  rw [if_neg hfeed]
  by_cases hreturn : c = '\r'
  · rw [if_pos hreturn]
    exact hescape _ (by rw [hreturn]; rfl)
  rw [if_neg hreturn]
  by_cases htab : c = '\t'
  · rw [if_pos htab]
    exact hescape _ (by rw [htab]; rfl)
  rw [if_neg htab]
  by_cases hback : c.toNat = 8
  · rw [if_pos hback]
    exact hescape _ (by rw [← hcode 8 hback]; rfl)
  rw [if_neg hback]
  by_cases hform : c.toNat = 12
  · rw [if_pos hform]
    exact hescape _ (by rw [← hcode 12 hform]; rfl)
  rw [if_neg hform]
  by_cases hcontrol : c.toNat < 32
  · rw [if_pos hcontrol]
    exact hescape _ (readUnit_control hcontrol rest)
  -- all other characters stand for themselves
  · rw [if_neg hcontrol, List.singleton_append, readString, if_neg hquote, if_neg hbackslash, if_neg hcontrol]

/-- A string that is written between quotes is read back. -/
theorem readString_escaped (cs : List Char) {fuel : Nat} (hfuel : cs.length < fuel) (read rest : List Char) :
    readString fuel read (cs.flatMap escapeChar ++ '"' :: rest) = .ok (String.ofList (read.reverse ++ cs), rest) := by
  induction cs generalizing fuel read with
  | nil =>
    obtain ⟨fuel, rfl⟩ := Nat.exists_eq_add_of_lt hfuel
    rw [List.append_nil]
    rfl
  | cons c cs ih =>
    obtain ⟨fuel, rfl⟩ := Nat.exists_eq_add_of_lt (Nat.zero_lt_of_lt hfuel)
    rw [List.length_cons] at hfuel
    rw [List.flatMap_cons, List.append_assoc, readString_escapeChar, ih (by omega), List.reverse_cons,
      List.append_assoc, List.singleton_append]

theorem escapeChar_ne_nil (c : Char) : escapeChar c ≠ [] := by
  intro hnil
  have hread := readString_escapeChar c 0 [] ['"']
  rw [hnil] at hread
  cases hread

theorem length_le_escaped (cs : List Char) : cs.length ≤ (cs.flatMap escapeChar).length := by
  induction cs with
  | nil => exact Nat.le_refl 0
  | cons c cs ih =>
    have hpos := List.length_pos_iff.mpr (escapeChar_ne_nil c)
    rw [List.flatMap_cons, List.length_append, List.length_cons]
    omega

theorem readText_escaped (s : String) (rest : List Char) :
    readText (s.toList.flatMap escapeChar ++ '"' :: rest) = .ok (s, rest) := by
  unfold readText
  rw [readString_escaped s.toList, List.reverse_nil, List.nil_append, String.ofList_toList]
  have hlength := length_le_escaped s.toList
  rw [List.length_append, List.length_cons]
  omega

end Herbarium.Json
