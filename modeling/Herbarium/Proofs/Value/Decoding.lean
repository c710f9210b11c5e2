import Herbarium.Proofs.Specimen.Export

/-!
The two ways from JSON to a value.

`Value.decode` tries the forms of a value in their order, `Value.ofJson` looks at the JSON itself. On null, numbers and
strings both give the same value (`ofVariants?_eq`), no form takes anything else, and what does not parse is decoded by
neither (`decode_of_parse`, `decode_of_fault`). Both undo the way from values to JSON: an integer is written without and
a real number with a fraction or an exponent, so a number comes back in its own form, and as itself if its text parses
back to it (`decode_agrees`).
-/

namespace Herbarium

open Outcome

/-- Whether JSON is null, a number or a string. -/
def Json.isScalar : Json → Bool
  | null | integer _ | real _ | string _ => true
  | bool _ | array _ | object _ => false

namespace Value

variable {source : String} {j : Json} {v : Value}

/-! ## Forms -/

/-- Before an integer is tried as a real number it is tried as an integer of 64 bits. -/
theorem ofVariants?_integer (n : Int) : ofVariants? (.integer n) = some (ofInteger n) := by
  have hnull : Variant.null.read? (.integer n) = none := rfl
  unfold ofVariants? Variant.order ofInteger
  by_cases hfits : Int64.minValue.toInt ≤ n ∧ n ≤ Int64.maxValue.toInt
  · have hint : Variant.int.read? (.integer n) = some (int (Int64.ofInt n)) := if_pos hfits
    rw [if_pos hfits, List.findSome?_cons, hnull, List.findSome?_cons, hint]
  · have hint : Variant.int.read? (.integer n) = none := if_neg hfits
    have hreal : Variant.real.read? (.integer n) = some (real (Binary64.ofInt n)) := rfl
    rw [if_neg hfits, List.findSome?_cons, hnull, List.findSome?_cons, hint, List.findSome?_cons, hreal]

theorem ofVariants?_eq (j : Json) : ofVariants? j = if j.isScalar then some (ofJson j) else none := by
  cases j with
  | integer n => exact ofVariants?_integer n
  | _ => rfl

/-! ## Texts -/

theorem parse_of_readFirst {rest : List Char} (h : Json.readFirst source = .ok (j, rest)) :
    Json.parse source = (Json.endOfText rest).map fun _ => j := by
  rw [Json.parse, h, ok_bind]
  rfl

theorem decode_of_readFirst {rest : List Char} (h : Json.readFirst source = .ok (j, rest)) :
    decode source =
      if j.isScalar then ((Json.endOfText rest).mapError .json).map fun _ => ofJson j else .error .noVariant := by
  rw [decode, h, mapError_ok, ok_bind]
  dsimp only
  rw [ofVariants?_eq]
  cases j.isScalar <;> rfl

theorem decode_of_parse (h : Json.parse source = .ok j) :
    decode source = if j.isScalar then .ok (ofJson j) else .error .noVariant := by
  obtain ⟨⟨j', rest⟩, hfirst, h⟩ := bind_eq_ok.mp h
  obtain ⟨hend, h⟩ := check_bind_eq_ok.mp h
  cases h
  rw [decode_of_readFirst hfirst, hend]
  rfl

/-- What does not parse is not decoded. The fault is the same, unless a value of no form was read before it. -/
theorem decode_of_fault {f : Json.Fault} (h : Json.parse source = .error f) :
    decode source = .error (.json f) ∨
      decode source = .error .noVariant ∧ ∃ j rest, Json.readFirst source = .ok (j, rest) ∧ j.isScalar = false := by
  cases hfirst : Json.readFirst source with
  | error f' =>
    rw [Json.parse, hfirst, error_bind] at h
    cases h
    left
    rw [decode, hfirst]
    rfl
  | ok read =>
    obtain ⟨j, rest⟩ := read
    rw [parse_of_readFirst hfirst] at h
    rw [decode_of_readFirst hfirst]
    cases hscalar : j.isScalar with
    | false => exact Or.inr ⟨rfl, j, rest, rfl, hscalar⟩
    | true =>
      left
      cases hend : Json.endOfText rest with
      | ok _ =>
        rw [hend] at h
        cases h
      | error f' =>
        rw [hend] at h
        cases h
        rfl

/-! ## Values written and read again -/

theorem isScalar_toJson (v : Value) : v.toJson.isScalar = true := by
  cases v <;> rfl

theorem parse_toJson (hv : ∀ x, v = .real x → x.isFinite = true ∧ Json.ReadsBack x) :
    Json.parse v.toJson.render = .ok v.toJson := by
  rw [Json.parse_render (readable_toJson (fun x hx => (hv x hx).1) _), reread_toJson hv]

/-- Both ways from a text give the same value, if the text is null, a number or a string, or both fail; any other JSON
is decoded by none of the forms. What is written for a value is read as the value on both ways; for a real number this
takes that its text parses back to it. -/
theorem decode_agrees :
    (∀ source j, Json.parse source = .ok j →
      decode source = if j.isScalar then .ok (ofJson j) else .error .noVariant) ∧
    (∀ source f, Json.parse source = .error f →
      decode source = .error (.json f) ∨
        decode source = .error .noVariant ∧ ∃ j rest, Json.readFirst source = .ok (j, rest) ∧ j.isScalar = false) ∧
    ∀ v : Value, (∀ x, v = .real x → x.isFinite = true ∧ Json.ReadsBack x) →
      decode v.toJson.render = .ok v ∧ (Json.parse v.toJson.render).map ofJson = .ok v := by
  refine ⟨fun _ _ => decode_of_parse, fun _ _ => decode_of_fault, fun v hv => ?_⟩
  have hparse := parse_toJson hv
  rw [decode_of_parse hparse, if_pos (isScalar_toJson v), hparse, map_ok, ofJson_toJson]
  exact ⟨rfl, rfl⟩

theorem decode_agrees_five :
    decode "18446744073709551615" = .ok (.real (.ofInt (2 ^ 64 - 1))) ∧ decode "[5]" = .error .noVariant ∧
    (∃ f, decode "nulll" = .error f) ∧ decode (toJson (.real (.ofInt 5))).render = .ok (.real (.ofInt 5)) := by
  obtain ⟨hread, hfault, hwritten⟩ := decode_agrees
  have hlarge : Json.parse "18446744073709551615" = .ok (.integer (2 ^ 64 - 1)) := rfl
  have hlist : Json.parse "[5]" = .ok (.array [.integer 5]) := rfl
  have hmore : Json.parse "nulll" = .error { kind := .trailingCharacters, unread := 0 } := rfl
  have hback : ∀ x, Value.real (.ofInt 5) = .real x → x.isFinite = true ∧ Json.ReadsBack x := by
    intro x hx
    rw [← Value.real.inj hx]
    have hfive : (Binary64.ofInt 5).isFinite = true := by decide +kernel
    exact ⟨hfive, Json.readsBack_of_few_digits hfive (by decide +kernel) (by decide +kernel)⟩
  refine ⟨hread _ _ hlarge, hread _ _ hlist, ?_, (hwritten _ hback).1⟩
  rcases hfault _ _ hmore with h | ⟨h, _⟩
  · exact ⟨_, h⟩
  · exact ⟨_, h⟩

end Value

end Herbarium
