import Herbarium.Json.Parser
import Herbarium.Json.Printer
import Herbarium.Proofs.Json.Scaling
import Herbarium.Proofs.Outcome

/-!
Numbers read back from JSON text.

A number is written with a fraction or an exponent, by which it is read as a real number again, or with digits only, by
which it stays an integer. The reader takes the digits and the exponent for a decimal, the very one that was written but
for zeros that have gone over from the exponent into the digits (`readNumber_writeUnsigned`). That decimal denotes the
number (`nearest_shown`) and is in range, so the text of every finite number is read, as `readBack` of it. This is the
number itself where its text has so few digits that the reader rounds once (`readBack_of_few_digits`), and elsewhere it
may be a neighbour.
-/

namespace Herbarium.Json

open Outcome
open Decimal (digits digitValue? spanDigits valueOfDigits zeros)

variable {negative : Bool} {whole fraction rest : List Char}

/-- What may follow a value. -/
def Ends (rest : List Char) : Prop := ∀ c ∈ rest.head?, c = ',' ∨ c = ']' ∨ c = '\x7d'

/-- Whether a text does not go on with digits. -/
def NoDigit (rest : List Char) : Prop := ∀ c ∈ rest.head?, digitValue? c = none

theorem Ends.noDigit (h : Ends rest) : NoDigit rest := by
  intro c hc
  rcases h c hc with rfl | rfl | rfl <;> rfl

theorem noDigit_cons {c : Char} (h : digitValue? c = none) : NoDigit (c :: rest) := by
  intro c' hc
  cases hc
  exact h

/-! ## The parts of a number -/

theorem readNumber_whole (hwhole : ∀ c ∈ whole, (digitValue? c).isSome = true) (hne : whole ≠ [])
    (hzero : ∀ ds, whole = '0' :: ds → ds = []) (hrest : NoDigit rest) :
    readNumber negative (whole ++ rest) = readFraction negative whole rest := by
  unfold readNumber
  rw [Decimal.spanDigits_append hwhole hrest]
  split
  · next h => exact absurd (Prod.mk.inj h).1 hne
  · next h => exact absurd (Prod.mk.inj h).1 hne
  · next h => rw [(Prod.mk.inj h).1, (Prod.mk.inj h).2]
  · next more _ hmore h =>
    obtain ⟨rfl, rfl⟩ := Prod.mk.inj h
    exact absurd (hzero more rfl) fun hnil => hmore (by rw [hnil])
  · next h => rw [(Prod.mk.inj h).1, (Prod.mk.inj h).2]

theorem readFraction_point (hfraction : ∀ c ∈ fraction, (digitValue? c).isSome = true) (hne : fraction ≠ [])
    (hrest : NoDigit rest) :
    readFraction negative whole ('.' :: (fraction ++ rest)) = readScale negative whole fraction rest := by
  rw [readFraction, Decimal.spanDigits_append hfraction hrest]
  split
  · next h => exact absurd (Prod.mk.inj h).1 hne
  · next h => exact absurd (Prod.mk.inj h).1 hne
  · next h => rw [(Prod.mk.inj h).1, (Prod.mk.inj h).2]

theorem readFraction_none (hrest : ∀ c ∈ rest.head?, c ≠ '.') :
    readFraction negative whole rest = readScale negative whole [] rest := by
  unfold readFraction
  split
  · exact absurd rfl (hrest '.' rfl)
  · rfl

theorem readScale_unscaled (hrest : Ends rest) :
    readScale negative whole fraction rest = unscaled negative whole fraction rest := by
  unfold readScale
  cases rest with
  | nil => rfl
  | cons c cs =>
    have hletter : ¬ (c = 'e' ∨ c = 'E') := by
      rcases hrest c rfl with rfl | rfl | rfl <;> decide
    dsimp only
    rw [if_neg hletter]

theorem readScale_fraction (hne : fraction ≠ []) (hrest : Ends rest) :
    readScale negative whole fraction rest = realOf negative (collect whole fraction) rest := by
  rw [readScale_unscaled hrest, unscaled]
  exact if_neg fun h => hne h.1

/-! ## Digits that fit -/

theorem fill_of_lt {n : Nat} {ds : List Char} (h : n * 10 ^ ds.length + valueOfDigits ds < significandLimit) :
    fill n ds = (n * 10 ^ ds.length + valueOfDigits ds, []) := by
  induction ds generalizing n with
  | nil =>
    rw [List.length_nil, Nat.pow_zero, Nat.mul_one]
    rfl
  | cons c cs ih =>
    have hvalue : n * 10 ^ (c :: cs).length + valueOfDigits (c :: cs) =
        (10 * n + (digitValue? c).getD 0) * 10 ^ cs.length + valueOfDigits cs := by
      rw [← Decimal.foldl_digits, List.foldl_cons, Decimal.foldl_digits]
    rw [hvalue] at h ⊢
    have hfits : 10 * n + (digitValue? c).getD 0 < significandLimit :=
      Nat.lt_of_le_of_lt (Nat.le_mul_of_pos_right _ (Nat.pow_pos (by decide))) (Nat.lt_of_le_of_lt (Nat.le_add_right _ _) h)
    rw [fill, if_pos hfits, ih h]

theorem collect_of_lt (h : valueOfDigits (whole ++ fraction) < significandLimit) :
    collect whole fraction = ⟨valueOfDigits (whole ++ fraction), -(fraction.length : Int)⟩ := by
  rw [Decimal.valueOfDigits_append] at h ⊢
  have hwhole : fill 0 whole = (valueOfDigits whole, []) := by
    have hfits : 0 * 10 ^ whole.length + valueOfDigits whole < significandLimit := by
      rw [Nat.zero_mul, Nat.zero_add]
      refine Nat.lt_of_le_of_lt ?_ h
      exact (Nat.le_mul_of_pos_right _ (Nat.pow_pos (by decide))).trans (Nat.le_add_right _ _)
    rw [fill_of_lt hfits, Nat.zero_mul, Nat.zero_add]
  rw [collect, hwhole]
  dsimp only
  rw [fill_of_lt h]
  simp

/-! ## Exponents -/

theorem digitValue_cons {c : Char} {d : Nat} (hd : digitValue? c = some d) (ds : List Char) :
    valueOfDigits (c :: ds) = d * 10 ^ ds.length + valueOfDigits ds := by
  have hsingle : valueOfDigits [c] = d := by simp [valueOfDigits, hd]
  rw [← List.singleton_append, Decimal.valueOfDigits_append, hsingle]

theorem readExponentDigits_append {es : List Char} (hes : ∀ c ∈ es, (digitValue? c).isSome = true)
    (hrest : NoDigit rest) (limited : Bool) (e : Nat) (hlimit : e * 10 ^ es.length + valueOfDigits es ≤ 2147483647) :
    readExponentDigits limited e (es ++ rest) = .ok (e * 10 ^ es.length + valueOfDigits es, rest) := by
  induction es generalizing e with
  | nil =>
    rw [List.nil_append, List.length_nil, Nat.pow_zero, Nat.mul_one]
    cases rest with
    | nil => rfl
    | cons c cs =>
      rw [readExponentDigits, hrest c rfl]
      rfl
  | cons c es ih =>
    obtain ⟨d, hd⟩ := Option.isSome_iff_exists.mp (hes c List.mem_cons_self)
    have hvalue : e * 10 ^ (c :: es).length + valueOfDigits (c :: es) =
        (10 * e + d) * 10 ^ es.length + valueOfDigits es := by
      rw [digitValue_cons hd, List.length_cons, Nat.pow_succ]
      ring
    rw [hvalue] at hlimit ⊢
    have hsmall : ¬ 2147483647 < 10 * e + d := by
      have hle : 10 * e + d ≤ (10 * e + d) * 10 ^ es.length := Nat.le_mul_of_pos_right _ (Nat.pow_pos (by decide))
      omega
    rw [List.cons_append, readExponentDigits, hd]
    dsimp only
    rw [if_neg (by simp [hsmall])]
    exact ih (fun c' hc' => hes c' (List.mem_cons_of_mem c hc')) _ hlimit

/-- An exponent is read as it is written. -/
theorem readExponent_digits (nonzero : Bool) (e : Int) (he : e.natAbs ≤ 2147483647) (hrest : NoDigit rest) :
    readExponent nonzero ((if e < 0 then '-' else '+') :: (digits e.natAbs ++ rest)) = .ok (e, rest) := by
  obtain ⟨c, ds, hdigits⟩ := List.exists_cons_of_ne_nil (Decimal.digits_ne_nil e.natAbs)
  have hall : ∀ c' ∈ c :: ds, (digitValue? c').isSome = true := fun c' hc' =>
    Decimal.isSome_digitValue?_digits (hdigits ▸ hc')
  obtain ⟨d, hd⟩ := Option.isSome_iff_exists.mp (hall c List.mem_cons_self)
  have hvalue : d * 10 ^ ds.length + valueOfDigits ds = e.natAbs := by
    rw [← digitValue_cons hd, ← hdigits, Decimal.valueOfDigits_digits]
  have hread : ∀ limited, readExponentDigits limited d (ds ++ rest) = .ok (e.natAbs, rest) := fun limited => by
    rw [← hvalue]
    exact readExponentDigits_append (fun c' hc' => hall c' (List.mem_cons_of_mem c hc')) hrest limited d
      (hvalue ▸ he)
  rw [hdigits, List.cons_append]
  unfold readExponent
  by_cases hneg : e < 0
  · rw [if_pos hneg]
    simp only [Decimal.spanSign, hd, hread, ok_bind, pure_eq_ok, if_true]
    congr 2
    omega
  · rw [if_neg hneg]
    simp only [Decimal.spanSign, hd, hread, ok_bind, pure_eq_ok, Bool.false_eq_true, if_false]
    congr 2
    omega

theorem readScale_exponent (e : Int) (he : e.natAbs ≤ 2147483647) (hrest : NoDigit rest)
    (hfits : valueOfDigits (whole ++ fraction) < significandLimit) :
    readScale negative whole fraction ('e' :: (if e < 0 then '-' else '+') :: (digits e.natAbs ++ rest)) =
      realOf negative ⟨valueOfDigits (whole ++ fraction), e - fraction.length⟩ rest := by
  have hexponent : e - fraction.length = -(fraction.length : Int) + e := by omega
  unfold readScale
  dsimp only
  rw [if_pos (Or.inl rfl), readExponent_digits _ e he hrest, ok_bind, collect_of_lt hfits, hexponent]

/-! ## Real numbers -/

theorem readNumber_point (negative : Bool) (hwhole : ∀ c ∈ whole, (digitValue? c).isSome = true) (hne : whole ≠ [])
    (hzero : ∀ ds, whole = '0' :: ds → ds = []) (hfraction : ∀ c ∈ fraction, (digitValue? c).isSome = true)
    (hfne : fraction ≠ []) (hfits : valueOfDigits (whole ++ fraction) < significandLimit) (hrest : Ends rest) :
    readNumber negative (whole ++ '.' :: fraction ++ rest) =
      realOf negative ⟨valueOfDigits (whole ++ fraction), -(fraction.length : Int)⟩ rest := by
  rw [List.append_assoc, List.cons_append, readNumber_whole hwhole hne hzero (noDigit_cons rfl),
    readFraction_point hfraction hfne hrest.noDigit, readScale_fraction hfne hrest, collect_of_lt hfits]

variable {d : Decimal}

theorem digits_all (n : Nat) : ∀ c ∈ digits n, (digitValue? c).isSome = true :=
  fun _ => Decimal.isSome_digitValue?_digits

theorem zeros_all (n : Nat) : ∀ c ∈ zeros n, (digitValue? c).isSome = true :=
  fun _ => Decimal.isSome_digitValue?_zeros

theorem valueOfDigits_zeros_append (n : Nat) (ds : List Char) : valueOfDigits (zeros n ++ ds) = valueOfDigits ds := by
  rw [Decimal.valueOfDigits_append, Decimal.valueOfDigits_zeros, Nat.zero_mul, Nat.zero_add]

theorem length_zeros (n : Nat) : (zeros n).length = n := List.length_replicate

section Positional

variable {ds : List Char} (n : Nat) (hds : ∀ c ∈ ds, (digitValue? c).isSome = true)
include hds

theorem readNumber_below (hne : ds ≠ []) (hfits : valueOfDigits ds < significandLimit) (hrest : Ends rest) :
    readNumber negative ('0' :: '.' :: (zeros n ++ ds) ++ rest) =
      realOf negative ⟨valueOfDigits ds, -((n + ds.length : Nat) : Int)⟩ rest := by
  have hfraction : ∀ c ∈ zeros n ++ ds, (digitValue? c).isSome = true :=
    List.forall_mem_append.mpr ⟨zeros_all n, hds⟩
  have hvalue : valueOfDigits (['0'] ++ (zeros n ++ ds)) = valueOfDigits ds := by
    rw [← valueOfDigits_zeros_append (n + 1) ds, zeros, zeros, List.replicate_succ]
    rfl
  have hread := readNumber_point negative (List.forall_mem_singleton.mpr rfl) (List.cons_ne_nil '0' [])
    (fun ds' h => (List.cons.inj h).2.symm) hfraction (List.append_ne_nil_of_right_ne_nil _ hne)
    (hvalue.trans_lt hfits) hrest
  rw [hvalue, List.length_append, length_zeros] at hread
  exact hread

theorem readNumber_among (hhead : ∀ ds', ds ≠ '0' :: ds') (hpos : 0 < n) (hlt : n < ds.length)
    (hfits : valueOfDigits ds < significandLimit) (hrest : Ends rest) :
    readNumber negative (ds.take n ++ '.' :: ds.drop n ++ rest) =
      realOf negative ⟨valueOfDigits ds, -((ds.length - n : Nat) : Int)⟩ rest := by
  have htake : ds.take n ≠ [] := fun h => by
    have hlength := congrArg List.length h
    rw [List.length_take, List.length_nil] at hlength
    omega
  have hdrop : ds.drop n ≠ [] := fun h => by
    have hlength := congrArg List.length h
    rw [List.length_drop, List.length_nil] at hlength
    omega
  have hzero : ∀ ds', ds.take n = '0' :: ds' → ds' = [] := fun ds' h => by
    have hcons := List.take_append_drop n ds
    rw [h] at hcons
    exact absurd hcons.symm (hhead _)
  have hread := readNumber_point negative (fun c hc => hds c (List.mem_of_mem_take hc)) htake hzero
    (fun c hc => hds c (List.mem_of_mem_drop hc)) hdrop ((List.take_append_drop n ds).symm ▸ hfits) hrest
  rw [List.take_append_drop, List.length_drop] at hread
  exact hread

theorem readNumber_above (hne : ds ≠ []) (hhead : ∀ ds', ds ≠ '0' :: ds')
    (hfits : valueOfDigits ds * 10 ^ n * 10 < significandLimit) (hrest : Ends rest) :
    readNumber negative (ds ++ zeros n ++ ['.', '0'] ++ rest) =
      realOf negative ⟨valueOfDigits ds * 10 ^ n * 10, -1⟩ rest := by
  have hwhole : ∀ c ∈ ds ++ zeros n, (digitValue? c).isSome = true :=
    List.forall_mem_append.mpr ⟨hds, zeros_all n⟩
  have hzero : ∀ ds', ds ++ zeros n = '0' :: ds' → ds' = [] := fun ds' h => by
    obtain ⟨c, cs, rfl⟩ := List.exists_cons_of_ne_nil hne
    exact absurd (congrArg (· :: cs) (List.cons.inj h).1) (hhead cs)
  have hvalue : valueOfDigits (ds ++ zeros n ++ ['0']) = valueOfDigits ds * 10 ^ n * 10 := by
    rw [Decimal.valueOfDigits_append, Decimal.valueOfDigits_append, Decimal.valueOfDigits_zeros, length_zeros]
    rfl
  have hread := readNumber_point negative hwhole (List.append_ne_nil_of_left_ne_nil hne _) hzero
    (List.forall_mem_singleton.mpr rfl) (List.cons_ne_nil '0' []) (hvalue.trans_lt hfits) hrest
  rw [hvalue] at hread
  exact hread

end Positional

/-- The decimal that a text shows: a whole number written positionally has a zero behind its point. -/
def shown (d : Decimal) : Decimal :=
  if 0 ≤ d.exponent ∧ d.size ≤ 16 then ⟨d.coefficient * 10 ^ d.exponent.natAbs * 10, -1⟩ else d

theorem nearest_shown (d : Decimal) : (shown d).nearest = d.nearest := by
  unfold shown
  split
  · next h =>
    have hshift := Decimal.nearest_shift_pow d.coefficient d.exponent.natAbs d.exponent
    rw [← Decimal.nearest_shift, Int.natAbs_of_nonneg h.1, Int.sub_self] at hshift
    exact hshift
  · rfl

theorem shown_of_neg (h : d.exponent < 0) : shown d = d := if_neg fun hwhole => not_lt.mpr hwhole.1 h

theorem shown_of_large (h : 16 < d.size) : shown d = d := if_neg fun hwhole => not_lt.mpr hwhole.2 h

theorem coefficient_mul_lt (hexponent : 0 ≤ d.exponent) (hsize : d.size ≤ 16) :
    d.coefficient * 10 ^ d.exponent.natAbs * 10 < 10 ^ 17 := by
  have hlength : (digits d.coefficient).length + d.exponent.natAbs ≤ 16 := by
    unfold Decimal.size at hsize
    omega
  have hwhole : d.coefficient * 10 ^ d.exponent.natAbs < 10 ^ 16 := by
    calc d.coefficient * 10 ^ d.exponent.natAbs
        < 10 ^ (digits d.coefficient).length * 10 ^ d.exponent.natAbs :=
          Nat.mul_lt_mul_of_pos_right (Decimal.lt_pow_length_digits _) (Nat.pow_pos (by decide))
      _ = 10 ^ ((digits d.coefficient).length + d.exponent.natAbs) := (Nat.pow_add _ _ _).symm
      _ ≤ 10 ^ 16 := Nat.pow_le_pow_right (by decide) hlength
  omega

/-- A number written positionally reads as the decimal its text shows. -/
theorem readNumber_positional (hd : d.coefficient ≠ 0) (hfits : d.coefficient < significandLimit) (hsize : d.size ≤ 16)
    (hrest : Ends rest) :
    readNumber negative (Decimal.positionalText true (digits d.coefficient) d.size ++ rest) =
      realOf negative (shown d) rest := by
  have hds := digits_all d.coefficient
  have hne := Decimal.digits_ne_nil d.coefficient
  have hhead := Decimal.head_digits hd
  have hvalue := Decimal.valueOfDigits_digits d.coefficient
  have hplace : d.size = (digits d.coefficient).length + d.exponent := rfl
  unfold Decimal.positionalText
  split
  -- zeros after the point
  · next hpoint =>
    have hlength := Decimal.length_digits_pos d.coefficient
    have hexponent : -((d.size.natAbs + (digits d.coefficient).length : Nat) : Int) = d.exponent := by omega
    rw [readNumber_below _ hds hne (hvalue.trans_lt hfits) hrest, hvalue, hexponent, shown_of_neg (by omega)]
  · split
    -- the point among the digits
    · next hpoint hinside =>
      have hexponent : -(((digits d.coefficient).length - d.size.natAbs : Nat) : Int) = d.exponent := by omega
      rw [readNumber_among _ hds hhead (by omega) (by omega) (hvalue.trans_lt hfits) hrest, hvalue, hexponent,
        shown_of_neg (by omega)]
    -- zeros before the point
    · next hpoint hinside =>
      have hexponent : d.size.natAbs - (digits d.coefficient).length = d.exponent.natAbs := by omega
      have hwhole : 0 ≤ d.exponent := by omega
      have hlarge : valueOfDigits (digits d.coefficient) * 10 ^ d.exponent.natAbs * 10 < significandLimit := by
        rw [hvalue]
        exact (coefficient_mul_lt hwhole hsize).trans (by decide)
      rw [if_pos rfl, hexponent, readNumber_above _ hds hne hhead hlarge hrest, hvalue, shown, if_pos ⟨hwhole, hsize⟩]

section Exponential

variable {first : Char} {others : List Char} {e : Int}

theorem readNumber_whole_exponent (hfirst : (digitValue? first).isSome = true) (he : e.natAbs ≤ 2147483647)
    (hfits : valueOfDigits [first] < significandLimit) (hrest : NoDigit rest) :
    readNumber negative (first :: 'e' :: (if e < 0 then '-' else '+') :: (digits e.natAbs ++ rest)) =
      realOf negative ⟨valueOfDigits [first], e⟩ rest := by
  have hall : ∀ c ∈ [first], (digitValue? c).isSome = true := List.forall_mem_singleton.mpr hfirst
  have hzero : ∀ ds, [first] = '0' :: ds → ds = [] := fun ds h => (List.cons.inj h).2.symm
  rw [← List.singleton_append, readNumber_whole hall (List.cons_ne_nil _ _) hzero (noDigit_cons rfl),
    readFraction_none (by rintro c ⟨⟩; decide), readScale_exponent e he hrest (by rwa [List.append_nil]),
    List.append_nil, List.length_nil, Nat.cast_zero, Int.sub_zero]

theorem readNumber_point_exponent (hfirst : (digitValue? first).isSome = true)
    (hothers : ∀ c ∈ others, (digitValue? c).isSome = true) (hne : others ≠ []) (he : e.natAbs ≤ 2147483647)
    (hfits : valueOfDigits (first :: others) < significandLimit) (hrest : NoDigit rest) :
    readNumber negative
        (first :: '.' :: (others ++ 'e' :: (if e < 0 then '-' else '+') :: (digits e.natAbs ++ rest))) =
      realOf negative ⟨valueOfDigits (first :: others), e - others.length⟩ rest := by
  have hall : ∀ c ∈ [first], (digitValue? c).isSome = true := List.forall_mem_singleton.mpr hfirst
  have hzero : ∀ ds, [first] = '0' :: ds → ds = [] := fun ds h => (List.cons.inj h).2.symm
  rw [← List.singleton_append, readNumber_whole hall (List.cons_ne_nil _ _) hzero (noDigit_cons rfl),
    readFraction_point hothers hne (noDigit_cons rfl), readScale_exponent e he hrest hfits, List.singleton_append]

end Exponential

/-- A number written with an exponent reads as the decimal that is written. -/
theorem readNumber_exponential (hfits : d.coefficient < significandLimit) (hsize : (d.size - 1).natAbs ≤ 2147483647)
    (hrest : Ends rest) :
    readNumber negative (Decimal.exponentialText numberLayout (digits d.coefficient) d.size ++ rest) =
      realOf negative d rest := by
  obtain ⟨c, k⟩ := d
  have hvalue := Decimal.valueOfDigits_digits c
  have hall := digits_all c
  obtain ⟨e, he⟩ : ∃ e, e = (Decimal.mk c k).size - 1 := ⟨_, rfl⟩
  have hwidth : numberLayout.exponentWidth - (digits e.natAbs).length = 0 :=
    Nat.sub_eq_zero_of_le (Decimal.length_digits_pos _)
  have hexponent : e = (digits c).length - 1 + k := by
    rw [he]
    show ((digits c).length : Int) + k - 1 = _
    omega
  unfold Decimal.exponentialText Decimal.exponentText
  dsimp only
  rw [← he] at hsize ⊢
  rw [hwidth]
  obtain ⟨first, others, hdigits⟩ := List.exists_cons_of_ne_nil (Decimal.digits_ne_nil c)
  rw [hdigits] at hall hvalue hexponent ⊢
  rw [← hvalue] at hfits
  rw [List.forall_mem_cons] at hall
  rw [List.length_cons, Nat.cast_succ, Int.add_sub_cancel] at hexponent
  cases others with
  | nil =>
    have hk : e = k := by rw [hexponent, List.length_nil, Nat.cast_zero, Int.zero_add]
    have hread := @readNumber_whole_exponent negative rest first e hall.1 hsize hfits hrest.noDigit
    rw [hvalue, hk] at hread
    rw [hk]
    exact hread
  | cons second others =>
    have hk : e - (second :: others).length = k := by omega
    have hread := @readNumber_point_exponent negative rest first (second :: others) e hall.1 hall.2
      (List.cons_ne_nil _ _) hsize hfits hrest.noDigit
    rw [hvalue, hk] at hread
    refine Eq.trans ?_ hread
    congr 1
    simp [zeros]

/-! ## Numbers as they are written -/

theorem size_bounds {rank : Nat} (hd : d.nearest = rank) (hpos : 0 < rank) (hfinite : rank < Binary64.infinityRank) :
    d.coefficient ≠ 0 ∧ -400 ≤ d.size ∧ d.size ≤ 400 := by
  have hzero : ¬ (d.coefficient = 0 ∨ d.size < -400) := fun h => by
    have hnearest := Decimal.nearest_eq_zero h
    omega
  rw [not_or] at hzero
  refine ⟨hzero.1, by omega, ?_⟩
  by_contra hlarge
  have hinfinite := Decimal.infinityRank_le_nearest hzero.1 (by omega)
  omega

/-- The decimal that the text of a rank shows. -/
def written (rank : Nat) : Decimal :=
  if rank = 0 then ⟨0, -1⟩ else shown (Decimal.shortest .even rank)

theorem nearest_written (rank : Nat) : (written rank).nearest = rank := by
  unfold written
  split
  · next hzero =>
    rw [hzero]
    exact Decimal.nearest_eq_zero (Or.inl rfl)
  · next hpos => rw [nearest_shown, Decimal.nearest_shortest .even (Nat.pos_of_ne_zero hpos)]

theorem scaledRank?_written {rank : Nat} (hfinite : rank < Binary64.infinityRank) :
    ∃ scaled, scaledRank? (written rank) = some scaled := by
  unfold written
  split
  · exact ⟨_, scaledRank?_of_neg (by decide)⟩
  · next hpos =>
    unfold shown
    split
    · exact ⟨_, scaledRank?_of_neg (show (-1 : Int) < 0 by decide)⟩
    · exact scaledRank?_shortest (Nat.pos_of_ne_zero hpos) hfinite

/-- The text of a finite number without its sign reads as the decimal it shows. -/
theorem readNumber_writeUnsigned {rank : Nat} (hfinite : rank < Binary64.infinityRank) (negative : Bool)
    (hrest : Ends rest) :
    readNumber negative (Decimal.writeUnsigned numberLayout (Decimal.shortest .even rank) ++ rest) =
      realOf negative (written rank) rest := by
  rcases Nat.eq_zero_or_pos rank with rfl | hpos
  · exact readNumber_point negative (List.forall_mem_singleton.mpr rfl) (List.cons_ne_nil '0' [])
      (fun ds h => (List.cons.inj h).2.symm) (List.forall_mem_singleton.mpr rfl) (List.cons_ne_nil '0' []) (by decide)
      hrest
  · have hnearest := Decimal.nearest_shortest .even hpos
    have hdigits := Decimal.coefficient_shortest_le .even rank
    obtain ⟨hd, hlow, hhigh⟩ := size_bounds hnearest hpos hfinite
    rw [written, if_neg hpos.ne']
    generalize Decimal.shortest .even rank = d at *
    have hfits : d.coefficient < significandLimit := Nat.lt_of_le_of_lt hdigits (by decide)
    unfold Decimal.writeUnsigned
    dsimp only
    rw [if_neg hd, ← Decimal.size]
    split
    · next hpoint =>
      have hsize : -5 < d.size ∧ d.size ≤ 16 := by simpa [numberLayout] using hpoint
      exact readNumber_positional hd hfits hsize.2 hrest
    · next hpoint =>
      have hsize : -5 < d.size → 16 < d.size := by simpa [numberLayout] using hpoint
      have hshown : shown d = d := by
        rcases lt_or_ge 16 d.size with hlarge | hsmall
        · exact shown_of_large hlarge
        · have hlength := Decimal.length_digits_pos d.coefficient
          have hplace : d.size = (digits d.coefficient).length + d.exponent := rfl
          exact shown_of_neg (by omega)
      rw [hshown, readNumber_exponential hfits (by omega) hrest]

/-! ## The number that is read -/

/-- The number that the text of a finite number is read as. -/
def readBack (x : Binary64) : Binary64 :=
  Binary64.ofRank x.negative ((scaledRank? (written x.rank)).getD x.rank)

theorem realOf_written {x : Binary64} (hx : x.isFinite = true) (rest : List Char) :
    realOf x.negative (written x.rank) rest = .ok (real (readBack x), rest) := by
  obtain ⟨scaled, hscaled⟩ := scaledRank?_written (of_decide_eq_true hx)
  rw [realOf, readBack, hscaled]
  rfl

/-- A number whose text shows an integer of 53 bits, at most 22 places from the point, is read as itself. -/
theorem readBack_of_few_digits {x : Binary64} (hx : x.isFinite = true)
    (hdigits : (written x.rank).coefficient ≤ 2 ^ 53) (hexponent : (written x.rank).exponent.natAbs ≤ 22) :
    readBack x = x := by
  have hrank : x.rank < Binary64.infinityRank := of_decide_eq_true hx
  rw [readBack, scaledRank?_exact hdigits hexponent, Option.getD_some, nearest_written]
  simp only [Binary64.ofRank, Nat.min_eq_left hrank.le]

/-- The text 31.245270191439438 is read as the number after the one it is the text of. -/
example : (readBack (.ofRatio false 31245270191439438 (10 ^ 15))).rank =
    (Binary64.ofRatio false 31245270191439438 (10 ^ 15)).rank + 1 := by decide +kernel

/-! ## Integers -/

theorem readNumber_digits {n : Nat} (hfits : n < significandLimit) (hrest : Ends rest) :
    readNumber negative (digits n ++ rest) = .ok (integerOf negative n, rest) := by
  have hzero : ∀ ds, digits n = '0' :: ds → ds = [] := by
    intro ds hds
    by_cases hn : n = 0
    · subst hn
      exact (List.cons.inj hds).2.symm
    · exact absurd hds (Decimal.head_digits hn ds)
  have hpoint : ∀ c ∈ rest.head?, c ≠ '.' := by
    intro c hc
    rcases hrest c hc with rfl | rfl | rfl <;> decide
  have hcollect : collect (digits n) [] = ⟨n, 0⟩ := by
    have hvalue : valueOfDigits (digits n ++ []) = n := by rw [List.append_nil, Decimal.valueOfDigits_digits]
    rw [collect_of_lt (hvalue.trans_lt hfits), hvalue]
    rfl
  rw [readNumber_whole (digits_all n) (Decimal.digits_ne_nil n) hzero hrest.noDigit, readFraction_none hpoint,
    readScale_unscaled hrest, unscaled, hcollect]
  exact if_pos ⟨rfl, rfl⟩

theorem integerOf_negative {n : Int} (hneg : n < 0) (hlow : -2 ^ 63 ≤ n) : integerOf true n.natAbs = integer n := by
  have habs : -(n.natAbs : Int) = n := by omega
  unfold integerOf
  rw [if_pos rfl, if_pos (by omega), habs]

theorem integerOf_nonnegative {n : Int} (hnonneg : 0 ≤ n) : integerOf false n.natAbs = integer n := by
  have habs : (n.natAbs : Int) = n := by omega
  unfold integerOf
  rw [if_neg (by decide), habs]

/-! ## Values that start with a digit -/

theorem head_of_readNumber {cs : List Char} {result : Json × List Char} (h : readNumber negative cs = .ok result) :
    ∃ c cs', cs = c :: cs' ∧ (digitValue? c).isSome = true := by
  unfold readNumber at h
  rw [Decimal.spanDigits_eq] at h
  cases cs with
  | nil => cases h
  | cons c cs =>
    cases hc : (digitValue? c).isSome with
    | true => exact ⟨c, cs, rfl, hc⟩
    | false =>
      rw [List.takeWhile_cons_of_neg (by simp [hc]), List.dropWhile_cons_of_neg (by simp [hc])] at h
      cases h

theorem skipBlanks_cons {c : Char} {cs : List Char} (hc : isJsonBlank c = false) : skipBlanks (c :: cs) = c :: cs :=
  List.dropWhile_cons_of_neg (by simp [hc])

theorem not_isJsonBlank_digit {c : Char} (hc : (digitValue? c).isSome = true) : isJsonBlank c = false := by
  unfold isJsonBlank
  by_contra hblank
  rw [Bool.not_eq_false] at hblank
  simp only [Bool.or_eq_true, beq_iff_eq] at hblank
  rcases hblank with ((rfl | rfl) | rfl) | rfl <;> exact absurd hc (by decide)

theorem readValue_digit {depth : Nat} {c : Char} {cs : List Char} (hc : (digitValue? c).isSome = true) :
    readValue (depth + 1) (c :: cs) = readNumber false (c :: cs) := by
  unfold readValue
  rw [skipBlanks_cons (not_isJsonBlank_digit hc)]
  split
  case h_1 hcons => cases hcons
  case h_9 hcons =>
    cases hcons
    exact if_pos hc
  -- no other value starts with a digit
  all_goals
    next hcons =>
      cases hcons
      exact absurd hc (by decide)

end Herbarium.Json
