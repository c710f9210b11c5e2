import Herbarium.Filter.Lexer
import Herbarium.Proofs.Outcome
import Herbarium.Proofs.Text.Offset

/-!
The grammar of filter statements.

A statement is cut at its first operator token: `FirstToken t before op after` says that `t` is `before`, a token of
`op` and `after`, and that no token starts earlier. There is at most one such cut (`FirstToken.unique`), and if there is
none, no token starts anywhere, `NoToken t` (`firstToken_cases`). The lexer sees a token where one starts and none
elsewhere; no cut it makes to see so is off the boundaries of characters. Whether a token starts in a text depends on
what follows it: `NoTokenWithin front behind` says that none does, and then the first token of the whole is that of what
follows (`FirstToken.append_left`).
-/

namespace Herbarium.Filter

open Outcome

/-- The texts of an operator; the word `in` has a blank on both sides. -/
inductive IsToken : Operator → List Char → Prop where
  | equal : IsToken .equal ['=']
  | notEqual : IsToken .notEqual ['!', '=']
  | lessThan : IsToken .lessThan ['<']
  | greaterThan : IsToken .greaterThan ['>']
  | isIn {b i n e : Char} : Text.isBlank b = true → i = 'i' ∨ i = 'I' → n = 'n' ∨ n = 'N' → Text.isBlank e = true →
      IsToken .isIn [b, i, n, e]

/-- Whether a token starts a text. -/
def StartsToken (t : List Char) : Prop := ∃ op token after, IsToken op token ∧ t = token ++ after

/-- Whether no token starts anywhere in a text. -/
def NoToken (t : List Char) : Prop := ∀ earlier rest, t = earlier ++ rest → ¬ StartsToken rest

/-- A text cut at its first token. -/
structure FirstToken (t before : List Char) (op : Operator) (after : List Char) : Prop where
  token : ∃ token, IsToken op token ∧ t = before ++ (token ++ after)
  first : ∀ earlier rest, t = earlier ++ rest → earlier.length < before.length → ¬ StartsToken rest

/-! ## Where the lexer sees a token -/

theorem sliceFrom_append (cs ds : List Char) : sliceFrom (Text.byteLength cs) (cs ++ ds) = .ok ds := by
  rw [sliceFrom, Text.dropBytes?_append]

theorem sliceTo_append (cs ds : List Char) : sliceTo (Text.byteLength cs) (cs ++ ds) = .ok cs := by
  rw [sliceTo, Text.takeBytes?_append]

theorem toNat_ofNat {n : Nat} (h : n.isValidChar) : (Char.ofNat n).toNat = n := by
  rw [Char.ofNat, dif_pos h]
  rfl

/-- The characters of the word `in` are ASCII letters, in any case. -/
theorem asciiLower_eq_iff {c small capital : Char} (hsmall : 97 ≤ small.toNat ∧ small.toNat ≤ 122)
    (hcapital : capital.toNat + 32 = small.toNat) : Text.asciiLower c = small ↔ c = small ∨ c = capital := by
  have hle : ('A' ≤ c ∧ c ≤ 'Z') ↔ (65 ≤ c.toNat ∧ c.toNat ≤ 90) := Iff.rfl
  rw [← Char.toNat_inj, ← Char.toNat_inj, ← Char.toNat_inj, Text.asciiLower]
  split
  case isTrue h =>
    rw [hle] at h
    rw [toNat_ofNat (Or.inl (by omega))]
    omega
  case isFalse h =>
    rw [hle] at h
    omega

theorem isInWord_iff {word : List Char} :
    isInWord word = true ↔ ∃ i n, word = [i, n] ∧ (i = 'i' ∨ i = 'I') ∧ (n = 'n' ∨ n = 'N') := by
  have hi : ∀ c, Text.asciiLower c = 'i' ↔ c = 'i' ∨ c = 'I' := fun c => asciiLower_eq_iff (by decide) (by decide)
  have hn : ∀ c, Text.asciiLower c = 'n' ↔ c = 'n' ∨ c = 'N' := fun c => asciiLower_eq_iff (by decide) (by decide)
  rw [isInWord, beq_iff_eq]
  constructor
  · intro h
    obtain ⟨i, word, rfl, h₁, h⟩ := List.map_eq_cons_iff.mp h
    obtain ⟨n, word, rfl, h₂, h⟩ := List.map_eq_cons_iff.mp h
    obtain rfl := List.map_eq_nil_iff.mp h
    exact ⟨i, n, rfl, (hi i).mp h₁, (hn n).mp h₂⟩
  · rintro ⟨i, n, rfl, h⟩
    rw [List.map_cons, List.map_cons, (hi i).mpr h.1, (hn n).mpr h.2, List.map_nil]

/-- A blank starts no operator but `in`. -/
theorem operatorAt_blank {b : Char} (hb : Text.isBlank b = true) (rest : List Char) :
    operatorAt (b :: rest) = inAt b (b :: rest) := by
  have hne : ∀ c, Text.isBlank c = false → b ≠ c := fun c hc h => by rw [h, hc] at hb; cases hb
  unfold operatorAt
  split
  case h_6 heq =>
    injection heq with hc _
    rw [← hc, if_pos hb]
  case h_1 heq => cases heq
  all_goals
    injection ‹b :: rest = _› with hc _
    exact absurd hc (hne _ (by decide))

/-- What the lexer makes of the word between two blanks. -/
theorem inAt_token {b i n e : Char} (hi : i = 'i' ∨ i = 'I') (hn : n = 'n' ∨ n = 'N') (he : Text.isBlank e = true)
    (after : List Char) :
    inAt b (b :: i :: n :: e :: after) = .ok (some (.isIn, Text.byteLength [b, i, n, e])) := by
  have hword : isInWord [i, n] = true := isInWord_iff.mpr ⟨i, n, rfl, hi, hn⟩
  have hlength : Text.byteLength [i, n] = 2 := by
    rcases hi with rfl | rfl <;> rcases hn with rfl | rfl <;> rfl
  have htake : Text.takeBytes? 2 (i :: n :: e :: after) = some [i, n] := by
    rw [← hlength]
    exact Text.takeBytes?_append [i, n] (e :: after)
  have hrest : sliceFrom (b.utf8Size + 2) (b :: i :: n :: e :: after) = .ok (e :: after) := by
    rw [← hlength, ← Text.byteLength_cons]
    exact sliceFrom_append [b, i, n] (e :: after)
  have hall : Text.byteLength [b, i, n, e] = b.utf8Size + 2 + e.utf8Size := by
    rw [← hlength]
    simp only [Text.byteLength_cons, Text.byteLength_nil]
    omega
  simp only [inAt, Text.slice?_cons, htake, hword, hrest, he, hall, if_true, ok_bind, pure_eq_ok]

/-- The lexer sees a token where one starts. -/
theorem operatorAt_token {op : Operator} {token : List Char} (h : IsToken op token) (after : List Char) :
    operatorAt (token ++ after) = .ok (some (op, Text.byteLength token)) := by
  cases h with
  | equal => rfl
  | notEqual =>
    have hslice : sliceFrom 1 ('!' :: '=' :: after) = .ok ('=' :: after) := sliceFrom_append ['!'] ('=' :: after)
    show (do return if (← sliceFrom 1 ('!' :: '=' :: after)).head? = some '=' then some (Operator.notEqual, 2)
      else none) = _
    rw [hslice, ok_bind, List.head?_cons, if_pos rfl]
    rfl
  | lessThan => rfl
  | greaterThan => rfl
  -- the first blank decides that the word is looked at
  | isIn hb hi hn he => rw [List.cons_append, operatorAt_blank hb, ← inAt_token hi hn he after]; rfl

/-- The word `in` is no token where it lacks a blank. -/
theorem inAt_of_not_startsToken {b : Char} {rest : List Char} (hb : Text.isBlank b = true)
    (h : ¬ StartsToken (b :: rest)) : inAt b (b :: rest) = .ok none := by
  rw [inAt, Text.slice?_cons]
  cases htake : Text.takeBytes? 2 rest with
  -- no boundary of characters two bytes on: no word
  | none => rfl
  | some word =>
    obtain ⟨tail, rfl, hlength⟩ := Text.takeBytes?_eq_some htake
    by_cases hword : isInWord word = true
    · obtain ⟨i, n, rfl, hi, hn⟩ := isInWord_iff.mp hword
      have hrest : sliceFrom (b.utf8Size + 2) (b :: ([i, n] ++ tail)) = .ok tail := by
        rw [← hlength, ← Text.byteLength_cons]
        exact sliceFrom_append [b, i, n] tail
      simp only [hword, hrest, if_true, ok_bind, pure_eq_ok]
      cases tail with
      | nil => rfl
      | cons e after =>
        have he : ¬ Text.isBlank e = true := fun he => h ⟨.isIn, [b, i, n, e], after, .isIn hb hi hn he, rfl⟩
        simp only [if_neg he]
    · simp only [if_neg hword]

/-- The lexer sees no token where none starts. -/
theorem operatorAt_of_not_startsToken {t : List Char} (h : ¬ StartsToken t) : operatorAt t = .ok none := by
  have hlone : ∀ op c, IsToken op [c] → ∀ rest, t ≠ c :: rest := fun op c hc rest ht => h ⟨op, [c], rest, hc, ht⟩
  unfold operatorAt
  split
  case h_1 => rfl
  case h_2 rest => exact absurd rfl (hlone .equal '=' .equal rest)
  case h_3 rest =>
    have hslice : sliceFrom 1 ('!' :: rest) = .ok rest := sliceFrom_append ['!'] rest
    rw [hslice, ok_bind]
    split
    case isTrue hhead =>
      obtain ⟨after, rfl⟩ := List.head?_eq_some_iff.mp hhead
      exact absurd ⟨.notEqual, ['!', '='], after, .notEqual, rfl⟩ h
    case isFalse => rfl
  case h_4 rest => exact absurd rfl (hlone .lessThan '<' .lessThan rest)
  case h_5 rest => exact absurd rfl (hlone .greaterThan '>' .greaterThan rest)
  case h_6 b rest _ _ _ _ =>
    split
    case isTrue hb => exact inAt_of_not_startsToken hb h
    case isFalse => rfl

/-! ## The first token -/

/-- The first token is where the text begins. -/
theorem FirstToken.here {op : Operator} {token after : List Char} (h : IsToken op token) :
    FirstToken (token ++ after) [] op after where
  token := ⟨token, h, rfl⟩
  first := by
    intro _ _ _ hlt
    cases hlt

/-- The first token is behind a character where none starts. -/
theorem FirstToken.there {c : Char} {t before after : List Char} {op : Operator} (hc : ¬ StartsToken (c :: t))
    (h : FirstToken t before op after) : FirstToken (c :: t) (c :: before) op after where
  token := by
    obtain ⟨token, htoken, rfl⟩ := h.token
    exact ⟨token, htoken, rfl⟩
  first := by
    intro earlier rest heq hlt
    cases earlier with
    | nil =>
      rw [← List.nil_append rest, ← heq]
      exact hc
    | cons d earlier =>
      injection heq with _ heq
      exact h.first earlier rest heq (Nat.lt_of_succ_lt_succ hlt)

/-- A text is cut at its first token in one way. -/
theorem FirstToken.unique {t before before' after after' : List Char} {op op' : Operator}
    (h : FirstToken t before op after) (h' : FirstToken t before' op' after') :
    before = before' ∧ op = op' ∧ after = after' := by
  obtain ⟨token, htoken, ht⟩ := h.token
  obtain ⟨token', htoken', ht'⟩ := h'.token
  have hlength : before.length = before'.length := by
    rcases Nat.lt_trichotomy before.length before'.length with hlt | heq | hlt
    · exact absurd ⟨op, token, after, htoken, rfl⟩ (h'.first before _ ht hlt)
    · exact heq
    · exact absurd ⟨op', token', after', htoken', rfl⟩ (h.first before' _ ht' hlt)
  obtain ⟨rfl, hrest⟩ := List.append_inj (ht.symm.trans ht') hlength
  -- the lexer reads one operator of one length from what follows
  have hread := operatorAt_token htoken after
  rw [hrest, operatorAt_token htoken' after'] at hread
  simp only [Except.ok.injEq, Option.some.injEq, Prod.mk.injEq] at hread
  have hafter := sliceFrom_append token after
  rw [hrest, ← hread.2, sliceFrom_append token' after'] at hafter
  injection hafter with hafter
  exact ⟨rfl, hread.1.symm, hafter.symm⟩

/-- A text has a first token, or no token starts anywhere in it. -/
theorem firstToken_cases (t : List Char) :
    (∃ before op after, FirstToken t before op after) ∨ NoToken t := by
  induction t with
  | nil =>
    right
    rintro earlier rest heq ⟨op, token, after, htoken, rfl⟩
    obtain ⟨_, heq⟩ := List.append_eq_nil_iff.mp heq.symm
    obtain ⟨rfl, _⟩ := List.append_eq_nil_iff.mp heq
    cases htoken
  | cons c t ih =>
    by_cases hc : StartsToken (c :: t)
    · obtain ⟨op, token, after, htoken, heq⟩ := hc
      rw [heq]
      exact Or.inl ⟨[], op, after, .here htoken⟩
    · rcases ih with ⟨before, op, after, h⟩ | hnone
      · exact Or.inl ⟨c :: before, op, after, h.there hc⟩
      · right
        intro earlier rest heq
        cases earlier with
        | nil =>
          rw [← List.nil_append rest, ← heq]
          exact hc
        | cons d earlier =>
          injection heq with _ heq
          exact hnone earlier rest heq

/-! ## Texts that something follows -/

/-- Whether no token starts within a text when others follow it. -/
def NoTokenWithin (front behind : List Char) : Prop :=
  ∀ earlier c rest, front = earlier ++ c :: rest → ¬ StartsToken (c :: rest ++ behind)

variable {front behind behind' t before after : List Char} {op : Operator}

theorem IsToken.length_le {token : List Char} (h : IsToken op token) : token.length ≤ 4 := by
  cases h <;> simp

/-- A token with a blank behind its first character is the word `in`, and the blank ends it. -/
theorem IsToken.of_blank {c b : Char} {rest token : List Char} (h : IsToken op (c :: rest ++ b :: token))
    (hb : Text.isBlank b = true) :
    ∃ i n, rest = [i, n] ∧ Text.isBlank c = true ∧ (i = 'i' ∨ i = 'I') ∧ (n = 'n' ∨ n = 'N') := by
  rcases rest with _ | ⟨i, _ | ⟨n, _ | ⟨e, rest⟩⟩⟩
  · rw [List.singleton_append] at h
    cases h with
    | notEqual => exact absurd hb (by decide)
    | isIn _ hi _ _ => rcases hi with rfl | rfl <;> exact absurd hb (by decide)
  · rw [List.cons_append, List.singleton_append] at h
    cases h with
    | isIn _ _ hn _ => rcases hn with rfl | rfl <;> exact absurd hb (by decide)
  · rw [List.cons_append, List.cons_append, List.singleton_append] at h
    cases h with
    | isIn hc hi hn _ => exact ⟨i, n, rfl, hc, hi, hn⟩
  · have hlength := h.length_le
    simp only [List.length_append, List.length_cons] at hlength
    omega

/-- A token that starts in a text lies within it, or it is longer than the text. -/
theorem StartsToken.within (h : StartsToken (front ++ behind)) (behind' : List Char) :
    StartsToken (front ++ behind') ∨
      ∃ op c token after, IsToken op (front ++ c :: token) ∧ behind = c :: token ++ after := by
  obtain ⟨op, token, after, htoken, heq⟩ := h
  rcases List.append_eq_append_iff.mp heq with ⟨beyond, rfl, hbehind⟩ | ⟨unused, hfront, _⟩
  · cases beyond with
    | nil => exact Or.inl ⟨op, front, behind', by simpa using htoken, rfl⟩
    | cons c token => exact Or.inr ⟨op, c, token, after, htoken, hbehind⟩
  · exact Or.inl ⟨op, token, unused ++ behind', htoken, by rw [hfront, List.append_assoc]⟩

/-- Only the word `in` has a blank in it. -/
theorem not_startsToken_blank {b c : Char} (hb : Text.isBlank b = true) (hi : c ≠ 'i' ∧ c ≠ 'I') (t : List Char) :
    ¬ StartsToken (b :: c :: t) := by
  rintro ⟨op, token, after, htoken, heq⟩
  cases htoken with
  | isIn _ hword _ _ =>
    obtain rfl := (List.cons.inj (List.cons.inj heq).2).1
    exact hword.elim hi.1 hi.2
  | _ =>
    obtain rfl := (List.cons.inj heq).1
    exact absurd hb (by decide)

/-- Before a first token none starts. -/
theorem FirstToken.noTokenWithin (h : FirstToken (before ++ behind) before op after) : NoTokenWithin before behind := by
  rintro earlier c rest rfl
  exact h.first earlier _ (List.append_assoc _ _ _) (by simp)

/-- The first token behind a text in which none starts is the first one of what follows it. -/
theorem FirstToken.append_left (h : FirstToken t front op after) (hbefore : NoTokenWithin before t) :
    FirstToken (before ++ t) (before ++ front) op after := by
  induction before with
  | nil => exact h
  | cons c before ih =>
    refine .there (hbefore [] c before rfl) (ih fun earlier d rest heq => ?_)
    exact hbefore (c :: earlier) d rest (congrArg (c :: ·) heq)

end Herbarium.Filter
