import Herbarium.Decimal.Notation
import Herbarium.Decimal.Reader
import Mathlib.Data.List.Basic
import Mathlib.Data.List.TakeDrop
import Mathlib.Tactic.Ring

/-!
Digits of numbers.

Where the digits at the front of a text end, what a list of digits is worth (`valueOfDigits_append`), and how the digits
of a number bound it: they are worth the number (`valueOfDigits_digits`), and their count is the least power of ten
above it.
-/

namespace Herbarium.Decimal

theorem spanDigits_eq (cs : List Char) :
    spanDigits cs =
      (cs.takeWhile (fun c => (digitValue? c).isSome), cs.dropWhile fun c => (digitValue? c).isSome) :=
  List.span_eq_takeWhile_dropWhile _ cs

/-- Digits are split off as far as they go. -/
theorem spanDigits_append {ds rest : List Char} (hds : ∀ c ∈ ds, (digitValue? c).isSome = true)
    (hrest : ∀ c ∈ rest.head?, digitValue? c = none) : spanDigits (ds ++ rest) = (ds, rest) := by
  have hnone : rest.takeWhile (fun c => (digitValue? c).isSome) = [] ∧
      rest.dropWhile (fun c => (digitValue? c).isSome) = rest := by
    cases rest with
    | nil => exact ⟨rfl, rfl⟩
    | cons c cs =>
      have hc : (digitValue? c).isSome = false := by rw [hrest c rfl, Option.isSome_none]
      exact ⟨List.takeWhile_cons_of_neg (by simp [hc]), List.dropWhile_cons_of_neg (by simp [hc])⟩
  rw [spanDigits_eq, List.takeWhile_append_of_pos hds, List.dropWhile_append_of_pos hds, hnone.1, hnone.2,
    List.append_nil]

theorem digitValue?_of_isDigit {c : Char} (h : c.isDigit = true) : digitValue? c = some (c.toNat - '0'.toNat) := by
  have hbounds : '0' ≤ c ∧ c ≤ '9' := by
    rw [Char.isDigit, Bool.and_eq_true, decide_eq_true_eq, decide_eq_true_eq] at h
    exact h
  rw [digitValue?, if_pos hbounds]
  rfl

/-! ## What digits are worth -/

theorem foldl_digits (ds : List Char) (n : Nat) :
    ds.foldl (fun n c => 10 * n + (digitValue? c).getD 0) n = n * 10 ^ ds.length + valueOfDigits ds := by
  induction ds generalizing n with
  | nil => simp [valueOfDigits]
  | cons d ds ih =>
    rw [valueOfDigits, List.foldl_cons, List.foldl_cons, ih, ih (10 * 0 + _), List.length_cons, Nat.pow_succ]
    ring

theorem valueOfDigits_append (ds es : List Char) :
    valueOfDigits (ds ++ es) = valueOfDigits ds * 10 ^ es.length + valueOfDigits es := by
  rw [valueOfDigits, List.foldl_append, foldl_digits, ← valueOfDigits]

theorem valueOfDigits_zeros (n : Nat) : valueOfDigits (zeros n) = 0 := by
  induction n with
  | zero => rfl
  | succ n ih =>
    rw [zeros, List.replicate_succ, ← List.singleton_append, valueOfDigits_append, ← zeros, ih]
    exact Nat.zero_mul _

theorem digitValue?_lt (c : Char) : (digitValue? c).getD 0 < 10 := by
  unfold digitValue?
  split
  · next h =>
    have hupper : c.toNat ≤ 57 := h.2
    rw [Option.getD_some]
    omega
  · decide

theorem valueOfDigits_lt (ds : List Char) : valueOfDigits ds < 10 ^ ds.length := by
  induction ds with
  | nil => decide
  | cons d ds ih =>
    have hd : valueOfDigits [d] < 10 := by
      rw [valueOfDigits, List.foldl_cons, List.foldl_nil, Nat.mul_zero, Nat.zero_add]
      exact digitValue?_lt d
    rw [← List.singleton_append, valueOfDigits_append, List.length_append, List.length_singleton, Nat.pow_add]
    calc valueOfDigits [d] * 10 ^ ds.length + valueOfDigits ds
        < (valueOfDigits [d] + 1) * 10 ^ ds.length := by
          rw [Nat.add_mul, Nat.one_mul]
          exact Nat.add_lt_add_left ih _
      _ ≤ 10 ^ 1 * 10 ^ ds.length := Nat.mul_le_mul_right _ hd

theorem isSome_digitValue?_zeros {n : Nat} {c : Char} (h : c ∈ zeros n) : (digitValue? c).isSome = true := by
  rw [List.eq_of_mem_replicate h]
  rfl

/-! ## The digits of a number -/

variable {n : Nat}

theorem isDigit_of_mem_digits {c : Char} (h : c ∈ digits n) : c.isDigit = true :=
  Nat.isDigit_of_mem_toDigits (by decide) (by decide) h

theorem isSome_digitValue?_digits {c : Char} (h : c ∈ digits n) : (digitValue? c).isSome = true := by
  rw [digitValue?_of_isDigit (isDigit_of_mem_digits h), Option.isSome_some]

theorem digits_ne_nil (n : Nat) : digits n ≠ [] := Nat.toDigits_ne_nil

theorem length_digits_pos (n : Nat) : 0 < (digits n).length := Nat.length_toDigits_pos

theorem valueOfDigits_digits (n : Nat) : valueOfDigits (digits n) = n := by
  have hfold : valueOfDigits (digits n) = Nat.ofDigitChars 10 (digits n) 0 := by
    apply List.foldl_ext _ _ 0
    intro m c hc
    rw [digitValue?_of_isDigit (isDigit_of_mem_digits hc), Option.getD_some]
  rw [hfold, digits, Nat.ofDigitChars_ten_toDigits]

theorem lt_pow_length_digits (n : Nat) : n < 10 ^ (digits n).length :=
  (Nat.length_toDigits_le_iff (by decide) (length_digits_pos n)).mp le_rfl

theorem pow_length_digits_le (h : n ≠ 0) : 10 ^ ((digits n).length - 1) ≤ n := by
  by_contra hlt
  by_cases hone : (digits n).length - 1 = 0
  · rw [hone, Nat.pow_zero] at hlt
    omega
  · have hle := (Nat.length_toDigits_le_iff (by decide) (by omega)).mpr (Nat.lt_of_not_le hlt)
    rw [← digits] at hle
    omega

theorem head_digits (h : n ≠ 0) (ds : List Char) : digits n ≠ '0' :: ds := by
  intro heq
  have hvalue : n = valueOfDigits ds := by
    calc n = valueOfDigits (digits n) := (valueOfDigits_digits n).symm
      _ = valueOfDigits ['0'] * 10 ^ ds.length + valueOfDigits ds := by
          rw [heq, ← List.singleton_append, valueOfDigits_append]
      _ = valueOfDigits ds := by rw [show valueOfDigits ['0'] = 0 from rfl, Nat.zero_mul, Nat.zero_add]
  have hlow := pow_length_digits_le h
  have hhigh := valueOfDigits_lt ds
  rw [heq, List.length_cons, Nat.add_sub_cancel] at hlow
  omega

end Herbarium.Decimal
