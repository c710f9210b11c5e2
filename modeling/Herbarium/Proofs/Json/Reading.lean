import Herbarium.Proofs.Json.Numbers
import Herbarium.Proofs.Json.Strings

/-!
Values read back from JSON text.

The text of a value is read (`parse_render`), for integers of 64 bits, finite reals and brackets that nest no deeper
than the reader goes. What is read is the value with the members of its objects in order and with each real number as
it is read back, `reread`. A value is read the same with anything behind it that may follow a value, which carries the
induction through the elements of arrays and the members of objects: both loops go on at a comma and end at their
bracket (`loop_joined`).
-/

namespace Herbarium.Json

open Outcome

/-- A text at whose front a reader finds a value, within brackets that end by `close`. -/
structure Reads {α : Type} (item : List Char → Except Fault (α × List Char)) (close : Char) (text : List Char)
    (v : α) : Prop where
  starts : ∃ c cs, text = c :: cs ∧ isJsonBlank c = false ∧ c ≠ close
  read : ∀ rest, Ends rest → item (text ++ rest) = .ok (v, rest)

/-! ## Lists with commas -/

section Lists

variable {α : Type} {item : List Char → Except Fault (α × List Char)} {close : Char} {texts : List (List Char)}
  {vs : List α}

theorem joinCommas_cons (first second : List Char) (texts : List (List Char)) :
    joinCommas (first :: second :: texts) = first ++ ',' :: joinCommas (second :: texts) := by
  unfold joinCommas
  rw [List.intercalate_cons_cons, List.append_assoc, List.singleton_append]

theorem joinCommas_singleton (text : List Char) : joinCommas [text] = text := List.intercalate_singleton

theorem starts_joined (h : List.Forall₂ (Reads item close) texts vs) (hne : texts ≠ []) :
    ∃ c cs, joinCommas texts = c :: cs ∧ isJsonBlank c = false ∧ c ≠ close := by
  cases h with
  | nil => exact absurd rfl hne
  | @cons text _ texts _ htext _ =>
    obtain ⟨c, cs, rfl, hblank, hclose⟩ := htext.starts
    cases texts with
    | nil => exact ⟨c, cs, joinCommas_singleton _, hblank, hclose⟩
    | cons second texts => exact ⟨c, _, joinCommas_cons _ second texts, hblank, hclose⟩

theorem length_le_joined (h : List.Forall₂ (Reads item close) texts vs) : texts.length ≤ (joinCommas texts).length := by
  induction h with
  | nil => exact Nat.zero_le _
  | @cons text _ texts _ htext _ ih =>
    obtain ⟨c, cs, rfl, _, _⟩ := htext.starts
    cases texts with
    | nil =>
      rw [joinCommas_singleton, List.length_singleton, List.length_cons]
      omega
    | cons second texts =>
      rw [joinCommas_cons]
      simp only [List.length_append, List.length_cons] at ih ⊢
      omega

/-- A loop that goes on after a comma and ends at a bracket reads all items of a list. -/
theorem loop_joined {loop : Nat → List α → List Char → Except Fault (Json × List Char)} (finish : List α → Json)
    (hlast : ∀ fuel read cs v rest, item cs = .ok (v, close :: rest) →
      loop (fuel + 1) read cs = .ok (finish (v :: read).reverse, rest))
    (hnext : ∀ fuel read cs v c rest, isJsonBlank c = false → c ≠ close → item cs = .ok (v, ',' :: c :: rest) →
      loop (fuel + 1) read cs = loop fuel (v :: read) (c :: rest))
    (hclose : ∀ rest, Ends (close :: rest)) (h : List.Forall₂ (Reads item close) texts vs) (hne : texts ≠ [])
    (fuel : Nat) (hfuel : texts.length ≤ fuel) (read : List α) (rest : List Char) :
    loop fuel read (joinCommas texts ++ close :: rest) = .ok (finish (read.reverse ++ vs), rest) := by
  induction h generalizing fuel read with
  | nil => exact absurd rfl hne
  | @cons text v texts vs htext htexts ih =>
    obtain ⟨fuel, rfl⟩ := Nat.exists_eq_add_of_lt (Nat.lt_of_lt_of_le (Nat.zero_lt_succ _) hfuel)
    rw [Nat.zero_add]
    rw [List.length_cons] at hfuel
    cases texts with
    | nil =>
      cases htexts
      rw [joinCommas_singleton, hlast _ _ _ _ _ (htext.read _ (hclose rest)), List.reverse_cons]
    | cons second texts =>
      have hmore := ih (List.cons_ne_nil _ _) fuel (by omega) (v :: read)
      obtain ⟨c, cs, hjoined, hblank, hc⟩ := starts_joined htexts (List.cons_ne_nil _ _)
      have hcomma : Ends (',' :: (joinCommas (second :: texts) ++ close :: rest)) := by
        rintro _ ⟨⟩
        exact Or.inl rfl
      have hitem := htext.read _ hcomma
      rw [joinCommas_cons, List.append_assoc, List.cons_append]
      rw [hjoined] at hitem hmore ⊢
      refine (hnext fuel read _ v c _ hblank hc hitem).trans (hmore.trans ?_)
      rw [List.reverse_cons, List.append_assoc, List.singleton_append]

end Lists

/-! ## Arrays -/

theorem ends_bracket (rest : List Char) : Ends (']' :: rest) := by
  rintro _ ⟨⟩
  exact Or.inr (Or.inl rfl)

theorem ends_brace (rest : List Char) : Ends ('\x7d' :: rest) := by
  rintro _ ⟨⟩
  exact Or.inr (Or.inr rfl)

variable {value : Reader}

theorem readElements_last (fuel : Nat) (read : List Json) (cs : List Char) (v : Json) (rest : List Char)
    (h : value cs = .ok (v, ']' :: rest)) :
    readElements value (fuel + 1) read cs = .ok (array (v :: read).reverse, rest) := by
  unfold readElements
  rw [h]
  rfl

theorem readElements_next (fuel : Nat) (read : List Json) (cs : List Char) (v : Json) (c : Char) (rest : List Char)
    (hblank : isJsonBlank c = false) (hc : c ≠ ']') (h : value cs = .ok (v, ',' :: c :: rest)) :
    readElements value (fuel + 1) read cs = readElements value fuel (v :: read) (c :: rest) := by
  have hcomma : skipBlanks (',' :: c :: rest) = ',' :: c :: rest := rfl
  simp only [readElements, h, hcomma, skipBlanks_cons hblank]
  split
  · next hcons => cases hcons
  · next hcons =>
    cases hcons
    exact absurd rfl hc
  · rfl

theorem readArray_joined {texts : List (List Char)} {vs : List Json}
    (h : List.Forall₂ (Reads value ']') texts vs) (rest : List Char) :
    readArray value (joinCommas texts ++ ']' :: rest) = .ok (array vs, rest) := by
  by_cases hne : texts = []
  · subst hne
    cases h
    rfl
  · obtain ⟨c, cs, hjoined, hblank, hc⟩ := starts_joined h hne
    have hlength := length_le_joined h
    have hfuel : texts.length ≤ (joinCommas texts ++ ']' :: rest).length := by
      rw [List.length_append]
      omega
    have hread := loop_joined array readElements_last readElements_next ends_bracket h hne _ hfuel [] rest
    rw [hjoined, List.cons_append] at hread ⊢
    unfold readArray
    rw [skipBlanks_cons hblank]
    split
    · next hcons => cases hcons
    · next hcons =>
      cases hcons
      exact absurd rfl hc
    · exact hread

/-! ## Objects -/

theorem readMembers_last (fuel : Nat) (read : List (String × Json)) (cs : List Char) (m : String × Json)
    (rest : List Char) (h : readMember value cs = .ok (m, '\x7d' :: rest)) :
    readMembers value (fuel + 1) read cs = .ok (object (orderedMembers (m :: read).reverse), rest) := by
  unfold readMembers
  rw [h]
  rfl

theorem readMembers_next (fuel : Nat) (read : List (String × Json)) (cs : List Char) (m : String × Json) (c : Char)
    (rest : List Char) (hblank : isJsonBlank c = false) (hc : c ≠ '\x7d')
    (h : readMember value cs = .ok (m, ',' :: c :: rest)) :
    readMembers value (fuel + 1) read cs = readMembers value fuel (m :: read) (c :: rest) := by
  have hcomma : skipBlanks (',' :: c :: rest) = ',' :: c :: rest := rfl
  simp only [readMembers, h, hcomma, skipBlanks_cons hblank]
  split
  · next hcons => cases hcons
  · next hcons =>
    cases hcons
    exact absurd rfl hc
  · rfl

theorem orderedMembers_nil : orderedMembers [] = [] := by
  unfold orderedMembers
  rw [List.mergeSort_nil]
  rfl

theorem readObject_joined {texts : List (List Char)} {members : List (String × Json)}
    (h : List.Forall₂ (Reads (readMember value) '\x7d') texts members) (rest : List Char) :
    readObject value (joinCommas texts ++ '\x7d' :: rest) = .ok (object (orderedMembers members), rest) := by
  by_cases hne : texts = []
  · subst hne
    cases h
    rw [orderedMembers_nil]
    rfl
  · obtain ⟨c, cs, hjoined, hblank, hc⟩ := starts_joined h hne
    have hlength := length_le_joined h
    have hfuel : texts.length ≤ (joinCommas texts ++ '\x7d' :: rest).length := by
      rw [List.length_append]
      omega
    have hread := loop_joined (fun members => object (orderedMembers members)) readMembers_last readMembers_next
      ends_brace h hne _ hfuel [] rest
    rw [hjoined, List.cons_append] at hread ⊢
    unfold readObject
    rw [skipBlanks_cons hblank]
    split
    · next hcons => cases hcons
    · next hcons =>
      cases hcons
      exact absurd rfl hc
    · exact hread

theorem reads_member {text : List Char} {v : Json} (key : String) (h : Reads value ']' text v) :
    Reads (readMember value) '\x7d' (stringChars key ++ ':' :: text) (key, v) where
  starts := ⟨'"', _, rfl, rfl, by decide⟩
  read rest hrest := by
    obtain ⟨c, cs, htext, hblank, _⟩ := h.starts
    have hvalue : value (skipBlanks (text ++ rest)) = .ok (v, rest) := by
      rw [htext, List.cons_append, skipBlanks_cons hblank, ← List.cons_append, ← htext, h.read rest hrest]
    have hcolon : skipBlanks (':' :: (text ++ rest)) = ':' :: (text ++ rest) := rfl
    have hcs : stringChars key ++ ':' :: text ++ rest =
        '"' :: (key.toList.flatMap escapeChar ++ '"' :: ':' :: (text ++ rest)) := by
      simp only [stringChars, List.cons_append, List.append_assoc, List.nil_append]
    rw [hcs]
    simp only [readMember, readText_escaped, ok_bind, hcolon, hvalue, pure_eq_ok]

/-! ## Values -/

variable {depth : Nat}

theorem reads_unsigned {text : List Char} {v : Json}
    (h : ∀ rest, Ends rest → readNumber false (text ++ rest) = .ok (v, rest)) :
    Reads (readValue (depth + 1)) ']' text v := by
  obtain ⟨c, cs, htext, hc⟩ := head_of_readNumber (h [] (by rintro _ ⟨⟩))
  rw [List.append_nil] at htext
  subst htext
  have hclose : c ≠ ']' := by
    rintro rfl
    exact absurd hc (by decide)
  refine ⟨⟨c, cs, rfl, not_isJsonBlank_digit hc, hclose⟩, fun rest hrest => ?_⟩
  rw [List.cons_append, readValue_digit hc]
  exact h rest hrest

theorem reads_negative {text : List Char} {v : Json}
    (h : ∀ rest, Ends rest → readNumber true (text ++ rest) = .ok (v, rest)) :
    Reads (readValue (depth + 1)) ']' ('-' :: text) v where
  starts := ⟨'-', _, rfl, rfl, by decide⟩
  read := h

theorem reads_real {x : Binary64} (hx : x.isFinite = true) :
    Reads (readValue (depth + 1)) ']' (realText x).toList (real (readBack x)) := by
  have hread : ∀ rest, Ends rest → readNumber x.negative
      (Decimal.writeUnsigned numberLayout (Decimal.shortest .even x.rank) ++ rest) = .ok (real (readBack x), rest) :=
    fun rest hrest => (readNumber_writeUnsigned (of_decide_eq_true hx) _ hrest).trans (realOf_written hx rest)
  unfold realText
  rw [if_pos hx, Decimal.write, String.toList_ofList]
  cases hneg : x.negative with
  | true =>
    rw [hneg] at hread
    exact reads_negative hread
  | false =>
    rw [hneg] at hread
    exact reads_unsigned hread

theorem reads_integer {n : Int} (hlow : -2 ^ 63 ≤ n) (hhigh : n < 2 ^ 64) :
    Reads (readValue (depth + 1)) ']' (Decimal.integerText n).toList (integer n) := by
  unfold Decimal.integerText
  rw [String.toList_ofList]
  have hfits : n.natAbs < significandLimit := by
    unfold significandLimit
    omega
  by_cases hneg : n < 0
  · rw [if_pos hneg]
    refine reads_negative fun rest hrest => ?_
    rw [readNumber_digits hfits hrest, integerOf_negative hneg hlow]
  · rw [if_neg hneg]
    refine reads_unsigned fun rest hrest => ?_
    rw [readNumber_digits hfits hrest, integerOf_nonnegative (not_lt.mp hneg)]

theorem reads_string (s : String) : Reads (readValue (depth + 1)) ']' (stringChars s) (string s) where
  starts := ⟨'"', _, rfl, rfl, by decide⟩
  read rest _ := by
    have hquote : ∀ cs, readValue (depth + 1) ('"' :: cs) = (readText cs).map fun read => (string read.1, read.2) :=
      fun _ => rfl
    rw [stringChars, List.cons_append, List.append_assoc, hquote, List.singleton_append, readText_escaped]
    rfl

theorem reads_array {texts : List (List Char)} {vs : List Json}
    (h : List.Forall₂ (Reads (readValue (depth + 1)) ']') texts vs) :
    Reads (readValue (depth + 2)) ']' ('[' :: (joinCommas texts ++ [']'])) (array vs) where
  starts := ⟨'[', _, rfl, rfl, by decide⟩
  read rest _ := by
    have hbracket : ∀ cs, readValue (depth + 2) ('[' :: cs) = readArray (readValue (depth + 1)) cs := fun _ => rfl
    rw [List.cons_append, List.append_assoc, hbracket, List.singleton_append, readArray_joined h]

theorem reads_object {texts : List (List Char)} {members : List (String × Json)}
    (h : List.Forall₂ (Reads (readMember (readValue (depth + 1))) '\x7d') texts members) :
    Reads (readValue (depth + 2)) ']' ('\x7b' :: (joinCommas texts ++ ['\x7d'])) (object (orderedMembers members)) where
  starts := ⟨'\x7b', _, rfl, rfl, by decide⟩
  read rest _ := by
    have hbrace : ∀ cs, readValue (depth + 2) ('\x7b' :: cs) = readObject (readValue (depth + 1)) cs := fun _ => rfl
    rw [List.cons_append, List.append_assoc, hbrace, List.singleton_append, readObject_joined h]

mutual

/-- What the text of a value is read as: each real number as what is read back of it, and the members of all objects in
the order of an object that was read. -/
def reread : Json → Json
  | real x => real (readBack x)
  | array elements => array (rereadElements elements)
  | object members => object (orderedMembers (rereadMembers members))
  | j => j

def rereadElements : List Json → List Json
  | [] => []
  | v :: rest => reread v :: rereadElements rest

def rereadMembers : List (String × Json) → List (String × Json)
  | [] => []
  | (key, v) :: rest => (key, reread v) :: rereadMembers rest

end

mutual

/-- Whether a value can be read: its integers have 64 bits, its reals are finite, and its brackets nest no deeper than a
bound. -/
def Readable : Json → Nat → Prop
  | integer n, _ => -2 ^ 63 ≤ n ∧ n < 2 ^ 64
  | real x, _ => x.isFinite = true
  | array elements, depth => ∃ inner, depth = inner + 1 ∧ ElementsReadable elements inner
  | object members, depth => ∃ inner, depth = inner + 1 ∧ MembersReadable members inner
  | _, _ => True

def ElementsReadable : List Json → Nat → Prop
  | [], _ => True
  | v :: rest, depth => Readable v depth ∧ ElementsReadable rest depth

def MembersReadable : List (String × Json) → Nat → Prop
  | [], _ => True
  | (_, v) :: rest, depth => Readable v depth ∧ MembersReadable rest depth

end

mutual

theorem reads_chars : ∀ (j : Json) (depth : Nat), Readable j depth →
    Reads (readValue (depth + 1)) ']' (chars j) (reread j)
  | null, _, _ => ⟨⟨'n', _, rfl, rfl, by decide⟩, fun _ _ => rfl⟩
  | bool true, _, _ => ⟨⟨'t', _, rfl, rfl, by decide⟩, fun _ _ => rfl⟩
  | bool false, _, _ => ⟨⟨'f', _, rfl, rfl, by decide⟩, fun _ _ => rfl⟩
  | integer n, _, h => by
    rw [Readable] at h
    exact reads_integer h.1 h.2
  | real x, _, h => by
    rw [Readable] at h
    exact reads_real h
  | string s, _, _ => reads_string s
  | array elements, _, h => by
    rw [Readable] at h
    obtain ⟨inner, rfl, h⟩ := h
    exact reads_array (reads_elements elements inner h)
  | object members, _, h => by
    rw [Readable] at h
    obtain ⟨inner, rfl, h⟩ := h
    exact reads_object (reads_members members inner h)

theorem reads_elements : ∀ (elements : List Json) (depth : Nat), ElementsReadable elements depth →
    List.Forall₂ (Reads (readValue (depth + 1)) ']') (elementChars elements) (rereadElements elements)
  | [], _, _ => List.Forall₂.nil
  | v :: rest, depth, h => List.Forall₂.cons (reads_chars v depth h.1) (reads_elements rest depth h.2)

theorem reads_members : ∀ (members : List (String × Json)) (depth : Nat), MembersReadable members depth →
    List.Forall₂ (Reads (readMember (readValue (depth + 1))) '\x7d') (memberChars members) (rereadMembers members)
  | [], _, _ => List.Forall₂.nil
  | (key, v) :: rest, depth, h =>
    List.Forall₂.cons (reads_member key (reads_chars v depth h.1)) (reads_members rest depth h.2)

end

theorem rereadElements_eq : ∀ elements : List Json, rereadElements elements = elements.map reread
  | [] => rfl
  | v :: rest => congrArg (reread v :: ·) (rereadElements_eq rest)

theorem rereadMembers_eq : ∀ members : List (String × Json),
    rereadMembers members = members.map fun m => (m.1, reread m.2)
  | [] => rfl
  | (key, v) :: rest => congrArg ((key, reread v) :: ·) (rereadMembers_eq rest)

theorem elementsReadable_iff : ∀ {elements : List Json},
    ElementsReadable elements depth ↔ ∀ v ∈ elements, Readable v depth
  | [] => ⟨fun _ _ hv => (List.not_mem_nil hv).elim, fun _ => trivial⟩
  | v :: rest => by rw [ElementsReadable, elementsReadable_iff, List.forall_mem_cons]

theorem membersReadable_iff : ∀ {members : List (String × Json)},
    MembersReadable members depth ↔ ∀ m ∈ members, Readable m.2 depth
  | [] => ⟨fun _ _ hm => (List.not_mem_nil hm).elim, fun _ => trivial⟩
  | (key, v) :: rest => by rw [MembersReadable, membersReadable_iff, List.forall_mem_cons]

/-- Members of different keys are all kept. -/
theorem keepLast_eq_self {members : List (String × Json)} (h : (members.map Prod.fst).Nodup) :
    keepLast members = members := by
  induction members with
  | nil => rfl
  | cons m rest ih =>
    rw [List.map_cons, List.nodup_cons] at h
    have hrest := ih h.2
    unfold keepLast at hrest ⊢
    rw [List.foldr_cons, hrest]
    cases rest with
    | nil => rfl
    | cons next rest =>
      refine if_neg fun hkey => h.1 ?_
      rw [hkey]
      exact List.mem_cons_self

theorem orderedMembers_perm {members : List (String × Json)} (h : (members.map Prod.fst).Nodup) :
    (orderedMembers members).Perm members := by
  have hsorted := List.mergeSort_perm members fun a b => decide (a.1 ≤ b.1)
  unfold orderedMembers
  rw [keepLast_eq_self ((hsorted.map Prod.fst).nodup_iff.mpr h)]
  exact hsorted

theorem pairwise_mergeSort_keys (members : List (String × Json)) :
    (members.mergeSort fun a b => decide (a.1 ≤ b.1)).Pairwise fun a b => a.1 ≤ b.1 := by
  have hsorted : (members.mergeSort fun a b => decide (a.1 ≤ b.1)).Pairwise fun a b => decide (a.1 ≤ b.1) = true := by
    refine List.pairwise_mergeSort (fun a b c hab hbc => ?_) (fun a b => ?_) members
    · exact decide_eq_true (String.le_trans (of_decide_eq_true hab) (of_decide_eq_true hbc))
    · simpa using String.le_total a.1 b.1
  exact hsorted.imp of_decide_eq_true

/-- Members of different keys come in one order, whatever order they were given in. -/
theorem orderedMembers_congr {members members' : List (String × Json)} (h : (members.map Prod.fst).Nodup)
    (hperm : members.Perm members') : orderedMembers members' = orderedMembers members := by
  have hself := List.mergeSort_perm members fun a b => decide (a.1 ≤ b.1)
  have hself' := List.mergeSort_perm members' fun a b => decide (a.1 ≤ b.1)
  have hsame := hself'.trans (hperm.symm.trans hself.symm)
  unfold orderedMembers
  rw [hsame.eq_of_pairwise ?_ (pairwise_mergeSort_keys members') (pairwise_mergeSort_keys members)]
  intro a b ha hb hab hba
  have ha' := hself.mem_iff.mp (hsame.mem_iff.mp ha)
  exact List.inj_on_of_nodup_map h ha' (hself.mem_iff.mp hb) (String.le_antisymm hab hba)

/-- The text of a value is always read. -/
theorem parse_render {j : Json} (h : Readable j (depthLimit - 1)) : parse j.render = .ok j.reread := by
  have hread := (reads_chars j _ h).read [] (by rintro _ ⟨⟩)
  rw [List.append_nil] at hread
  have hfirst : readFirst j.render = .ok (j.reread, []) := by
    unfold readFirst render
    rw [String.toList_ofList]
    exact hread
  unfold parse
  rw [hfirst, ok_bind]
  rfl

/-! ## Real numbers that are read as they were written -/

/-- Whether the text of a number parses back to the number. -/
def ReadsBack (x : Binary64) : Prop := parse (real x).render = .ok (real x)

theorem parse_real {x : Binary64} (hx : x.isFinite = true) : parse (real x).render = .ok (real (readBack x)) :=
  parse_render (show Readable (real x) _ from hx)

theorem readsBack_iff {x : Binary64} (hx : x.isFinite = true) : ReadsBack x ↔ readBack x = x := by
  rw [ReadsBack, parse_real hx, Except.ok.injEq, real.injEq]

theorem readsBack_of_few_digits {x : Binary64} (hx : x.isFinite = true)
    (hdigits : (written x.rank).coefficient ≤ 2 ^ 53) (hexponent : (written x.rank).exponent.natAbs ≤ 22) :
    ReadsBack x := (readsBack_iff hx).mpr (readBack_of_few_digits hx hdigits hexponent)

theorem ReadsBack.reread {x : Binary64} (hx : x.isFinite = true) (h : ReadsBack x) : (real x).reread = real x :=
  congrArg real ((readsBack_iff hx).mp h)

end Herbarium.Json
