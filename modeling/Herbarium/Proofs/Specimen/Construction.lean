import Herbarium.Specimen.Basic
import Herbarium.Proofs.Outcome

/-!
Specimens as they are built.

A specimen comes from named values or from another one by setting a field, `Built`. Every assignment checks that a
length is finite, so a built specimen has finite lengths (`built_iff`), and every specimen of finite lengths is built
from its own entries in any order (`ofFields_perm`). `stored` is the specimen that a column of reals keeps: the same but
for the sign of its zeros.
-/

namespace Herbarium

open Outcome

namespace Binary64

/-- The zero with a sign. -/
def negativeZero : Binary64 := { zero with negative := true }

/-- The number with a zero's sign dropped. -/
def unsigned (x : Binary64) : Binary64 := if x = negativeZero then zero else x

theorem unsigned_of_ne {x : Binary64} (h : x ≠ negativeZero) : x.unsigned = x := if_neg h

theorem unsigned_ne (x : Binary64) : x.unsigned ≠ negativeZero := by
  unfold unsigned
  split
  · decide
  · assumption

theorem isFinite_unsigned {x : Binary64} (h : x.isFinite = true) : x.unsigned.isFinite = true := by
  unfold unsigned
  split
  · decide
  · exact h

/-- Only two numbers have the rank of zero. -/
theorem isZero_cases {x : Binary64} (h : x.isZero = true) : x = zero ∨ x = negativeZero := by
  obtain ⟨negative, rank, hrank⟩ := x
  have hr : rank = 0 := by simpa [isZero] using h
  subst hr
  cases negative with
  | false => exact Or.inl rfl
  | true => exact Or.inr rfl

theorem unsigned_eq (x : Binary64) : x.unsigned = if x.isZero then zero else x := by
  by_cases hz : x.isZero = true
  · rw [if_pos hz]
    rcases isZero_cases hz with rfl | rfl <;> decide
  · rw [if_neg hz]
    refine unsigned_of_ne fun h => hz ?_
    rw [h]
    decide

theorem not_isNaN_of_isFinite {x : Binary64} (h : x.isFinite = true) : x.isNaN = false := by
  simp only [isFinite, isNaN, decide_eq_true_eq, decide_eq_false_iff_not] at *
  omega

end Binary64

namespace Specimen

/-- The four lengths. -/
def lengths (r : Specimen) : List Binary64 := [r.sepalLength, r.sepalWidth, r.petalLength, r.petalWidth]

/-- The length in a field of lengths. -/
def length (r : Specimen) : (field : Field) → field.type = .float → Binary64
  | .sepalLength, _ => r.sepalLength
  | .sepalWidth, _ => r.sepalWidth
  | .petalLength, _ => r.petalLength
  | .petalWidth, _ => r.petalWidth
  | .species, h => absurd h (by decide)

/-- Whether all lengths are finite. -/
def IsFinite (r : Specimen) : Prop := ∀ x ∈ r.lengths, x.isFinite = true

/-- Whether a length is a zero with a sign. -/
def HasSignedZero (r : Specimen) : Prop := Binary64.negativeZero ∈ r.lengths

instance (r : Specimen) : Decidable r.IsFinite := inferInstanceAs (Decidable (∀ x ∈ r.lengths, x.isFinite = true))

instance (r : Specimen) : Decidable r.HasSignedZero := inferInstanceAs (Decidable (Binary64.negativeZero ∈ r.lengths))

/-- The specimen with the sign of its zeros dropped. -/
def stored (r : Specimen) : Specimen :=
  { sepalLength := r.sepalLength.unsigned, sepalWidth := r.sepalWidth.unsigned,
    petalLength := r.petalLength.unsigned, petalWidth := r.petalWidth.unsigned, species := r.species }

/-- The specimens there are: without values, read from named values, or another one with a field set. -/
inductive Built : Specimen → Prop where
  | blank : Built {}
  | read {row : Row} {reading : Reading} : ofFields row = .ok reading → Built reading.specimen
  | set {r r' : Specimen} {name : String} {v : Value} : Built r → r.set name v = .ok r' → Built r'

theorem isFinite_iff {r : Specimen} :
    r.IsFinite ↔ r.sepalLength.isFinite = true ∧ r.sepalWidth.isFinite = true ∧ r.petalLength.isFinite = true ∧
      r.petalWidth.isFinite = true := by
  simp [IsFinite, lengths]

theorem get_length (r : Specimen) : ∀ {field : Field} (h : field.type = .float),
    r.get field = .real (r.length field h)
  | .sepalLength, _ => rfl
  | .sepalWidth, _ => rfl
  | .petalLength, _ => rfl
  | .petalWidth, _ => rfl
  | .species, h => absurd h (by decide)

theorem length_mem (r : Specimen) : ∀ {field : Field} (h : field.type = .float),
    r.length field h ∈ r.lengths
  | .sepalLength, _ => by simp [length, lengths]
  | .sepalWidth, _ => by simp [length, lengths]
  | .petalLength, _ => by simp [length, lengths]
  | .petalWidth, _ => by simp [length, lengths]
  | .species, h => absurd h (by decide)

theorem type_eq_float {field : Field} (h : field ≠ .species) : field.type = .float := by
  cases field with
  | species => exact absurd rfl h
  | sepalLength | sepalWidth | petalLength | petalWidth => rfl

theorem lengths_stored (r : Specimen) : r.stored.lengths = r.lengths.map Binary64.unsigned := rfl

theorem stored_isFinite {r : Specimen} (h : r.IsFinite) : r.stored.IsFinite := by
  intro x hx
  rw [lengths_stored] at hx
  obtain ⟨y, hy, rfl⟩ := List.mem_map.mp hx
  exact Binary64.isFinite_unsigned (h y hy)

theorem stored_not_hasSignedZero (r : Specimen) : ¬ r.stored.HasSignedZero := by
  intro h
  unfold HasSignedZero at h
  rw [lengths_stored] at h
  obtain ⟨y, _, hy⟩ := List.mem_map.mp h
  exact Binary64.unsigned_ne y hy

theorem stored_eq_self {r : Specimen} (h : ¬ r.HasSignedZero) : r.stored = r := by
  have hlength : ∀ x ∈ r.lengths, x.unsigned = x := fun x hx =>
    Binary64.unsigned_of_ne fun hxz => h (by rw [HasSignedZero, ← hxz]; exact hx)
  simp only [lengths, List.forall_mem_cons] at hlength
  obtain ⟨h1, h2, h3, h4, _⟩ := hlength
  simp only [stored, h1, h2, h3, h4]

/-! ## Assignments keep lengths finite -/

theorem lengthOf_isFinite {field : Field} {v : Value} {x : Binary64} (h : lengthOf field v = .ok x) :
    x.isFinite = true := by
  obtain ⟨y, _, hy⟩ := bind_eq_ok.mp h
  split at hy
  · next hfinite =>
    cases hy
    exact hfinite
  · simp at hy

theorem assign_isFinite {r r' : Specimen} {field : Field} {v : Value} (hr : r.IsFinite)
    (h : r.assign field v = .ok r') : r'.IsFinite := by
  obtain ⟨h1, h2, h3, h4⟩ := isFinite_iff.mp hr
  cases field with
  | sepalLength =>
    obtain ⟨x, hx, rfl⟩ := map_eq_ok h
    exact isFinite_iff.mpr ⟨lengthOf_isFinite hx, h2, h3, h4⟩
  | sepalWidth =>
    obtain ⟨x, hx, rfl⟩ := map_eq_ok h
    exact isFinite_iff.mpr ⟨h1, lengthOf_isFinite hx, h3, h4⟩
  | petalLength =>
    obtain ⟨x, hx, rfl⟩ := map_eq_ok h
    exact isFinite_iff.mpr ⟨h1, h2, lengthOf_isFinite hx, h4⟩
  | petalWidth =>
    obtain ⟨x, hx, rfl⟩ := map_eq_ok h
    exact isFinite_iff.mpr ⟨h1, h2, h3, lengthOf_isFinite hx⟩
  | species =>
    cases h
    exact isFinite_iff.mpr ⟨h1, h2, h3, h4⟩

theorem set_isFinite {r r' : Specimen} {name : String} {v : Value} (hr : r.IsFinite)
    (h : r.set name v = .ok r') : r'.IsFinite := by
  unfold set at h
  split at h
  · exact assign_isFinite hr h
  · cases h

/-- A specimen stays one of finite lengths while a row is read into it. -/
theorem readRow_isFinite : ∀ {row : Row} {r : Specimen} {dropped : List String} {reading : Reading},
    r.IsFinite → readRow r dropped row = .ok reading → reading.specimen.IsFinite
  | [], _, _, _, hr, h => by
    cases h
    exact hr
  | (name, v) :: rest, r, dropped, reading, hr, h => by
    simp only [readRow] at h
    split at h
    · split at h
      · next hassign => exact readRow_isFinite (assign_isFinite hr hassign) h
      · cases h
    · exact readRow_isFinite hr h

theorem blank_isFinite : ({} : Specimen).IsFinite := by decide

theorem Built.isFinite {r : Specimen} (h : r.Built) : r.IsFinite := by
  induction h with
  | blank => exact blank_isFinite
  | read hread => exact readRow_isFinite blank_isFinite hread
  | set _ hset ih => exact set_isFinite ih hset

/-! ## Assignments set one field -/

theorem assign_length {r : Specimen} {field : Field} {v : Value} (hfield : field ≠ .species) :
    (∃ f, lengthOf field v = .error f ∧ r.assign field v = .error f) ∨
      ∃ x r', lengthOf field v = .ok x ∧ r.assign field v = .ok r' ∧ r'.get field = .real x ∧
        ∀ other, other ≠ field → r'.get other = r.get other := by
  cases hlength : lengthOf field v with
  | error f =>
    refine Or.inl ⟨f, rfl, ?_⟩
    cases field with
    | species => exact absurd rfl hfield
    | _ => rw [assign, hlength]; rfl
  | ok x =>
    refine Or.inr ?_
    cases field with
    | species => exact absurd rfl hfield
    | _ =>
      rw [assign, hlength]
      refine ⟨x, _, rfl, rfl, rfl, fun other hother => ?_⟩
      cases other <;> first | rfl | exact absurd rfl hother

theorem assign_species (r : Specimen) (v : Value) :
    ∃ r', r.assign .species v = .ok r' ∧ r'.get .species = .text (textOf v) ∧
      ∀ other, other ≠ .species → r'.get other = r.get other := by
  refine ⟨{ r with species := textOf v }, rfl, rfl, fun other hother => ?_⟩
  cases other with
  | species => exact absurd rfl hother
  | _ => rfl

/-! ## A specimen is read back from its entries -/

theorem ofName?_name (f : Field) : Field.ofName? f.name = some f := by
  cases f <;> decide

theorem lengthOf_real {field : Field} {x : Binary64} (h : x.isFinite = true) :
    lengthOf field (.real x) = .ok x := by
  simp [lengthOf, numberOf, h]

theorem mem_entries {r : Specimen} {e : String × Value} :
    e ∈ r.entries ↔ ∃ field : Field, e = (field.name, r.get field) := by
  have hall : ∀ field : Field, field ∈ Field.all := by
    intro field
    cases field <;> decide
  constructor
  · intro he
    obtain ⟨field, _, rfl⟩ := List.mem_map.mp he
    exact ⟨field, rfl⟩
  · rintro ⟨field, rfl⟩
    exact List.mem_map.mpr ⟨field, hall field, rfl⟩

theorem name_injective {f g : Field} (h : f.name = g.name) : f = g := by
  have hsome := ofName?_name g
  rw [← h, ofName?_name] at hsome
  exact Option.some.inj hsome

theorem eq_of_get {r s : Specimen} (h : ∀ field, s.get field = r.get field) : s = r := by
  obtain ⟨a, b, c, d, e⟩ := s
  obtain ⟨a', b', c', d', e'⟩ := r
  cases h .sepalLength
  cases h .sepalWidth
  cases h .petalLength
  cases h .petalWidth
  cases h .species
  rfl

/-- A field can be given the value that a specimen of finite lengths has there. -/
theorem assign_get {r : Specimen} (hr : r.IsFinite) (s : Specimen) (field : Field) :
    ∃ s', s.assign field (r.get field) = .ok s' ∧ s'.get field = r.get field ∧
      ∀ other, other ≠ field → s'.get other = s.get other := by
  by_cases hfield : field = .species
  · subst hfield
    exact assign_species s _
  · have hx := hr _ (r.length_mem (type_eq_float hfield))
    rw [r.get_length (type_eq_float hfield)]
    rcases assign_length hfield with ⟨f, hf, _⟩ | ⟨y, s', hy, hassign, hs', hother⟩
    · rw [lengthOf_real hx] at hf
      cases hf
    · rw [lengthOf_real hx] at hy
      cases hy
      exact ⟨s', hassign, hs', hother⟩

theorem readRow_entries {r : Specimen} (hr : r.IsFinite) : ∀ {row : Row}, (∀ e ∈ row, e ∈ r.entries) → ∀ s : Specimen,
    ∃ s', readRow s [] row = .ok { specimen := s', dropped := [] } ∧
      ∀ f : Field, (f.name, r.get f) ∈ row ∨ s.get f = r.get f → s'.get f = r.get f
  | [], _, s => ⟨s, rfl, fun f hf => hf.resolve_left List.not_mem_nil⟩
  | e :: row, hrow, s => by
    rw [List.forall_mem_cons] at hrow
    obtain ⟨field, rfl⟩ := mem_entries.mp hrow.1
    obtain ⟨s₁, hassign, hget, hother⟩ := assign_get hr s field
    obtain ⟨s', hread, hrest⟩ := readRow_entries hr hrow.2 s₁
    refine ⟨s', ?_, fun f hf => hrest f ?_⟩
    · simp only [readRow, ofName?_name, hassign, hread]
    · by_cases hfield : f = field
      · subst hfield
        exact Or.inr hget
      · rw [hother f hfield]
        refine hf.imp_left fun hmem => (List.mem_cons.mp hmem).resolve_left fun heq => hfield ?_
        exact name_injective (Prod.mk.inj heq).1

/-- The entries of a specimen of finite lengths are read as the specimen in any order. -/
theorem ofFields_perm {r : Specimen} {row : Row} (hr : r.IsFinite) (hrow : row.Perm r.entries) :
    ofFields row = .ok { specimen := r, dropped := [] } := by
  obtain ⟨s', hread, hs'⟩ := readRow_entries hr (fun e he => hrow.mem_iff.mp he) {}
  have hsame : s' = r := eq_of_get fun f => hs' f (Or.inl (hrow.mem_iff.mpr (mem_entries.mpr ⟨f, rfl⟩)))
  rw [ofFields, hread, hsame]

theorem ofFields_entries {r : Specimen} (h : r.IsFinite) :
    ofFields r.entries = .ok { specimen := r, dropped := [] } :=
  ofFields_perm h (List.Perm.refl _)

/-- Built are exactly the specimens of finite lengths. -/
theorem built_iff {r : Specimen} : r.Built ↔ r.IsFinite :=
  ⟨Built.isFinite, fun h => Built.read (ofFields_entries h)⟩

theorem built_of_isFinite {records : List Specimen} (h : ∀ r ∈ records, r.IsFinite) : ∀ r ∈ records, r.Built :=
  fun r hr => built_iff.mpr (h r hr)

end Specimen

end Herbarium
