import Herbarium.Http.Service
import Herbarium.Proofs.Json.Reading
import Herbarium.Proofs.Specimen.Construction

/-!
Specimens written and loaded again.

The JSON text of specimens is an array with one element for each of them (`parse_recordsJson`). It loads as the same
specimens, in their order and with nothing dropped, if the text of each of their lengths parses back to the length
(`ofJson_export`). The members of an object come back ordered by their keys and not as they were written. Their keys
differ, so they are the entries of the specimen in another order, and as such they are read as the specimen
(`ofFields_perm`).
-/

namespace Herbarium

open Outcome

namespace Value

theorem ofInteger_toInt (n : Int64) : ofInteger n.toInt = int n := by
  unfold ofInteger
  rw [if_pos ⟨Int64.minValue_le_toInt n, Int64.toInt_le n⟩, Int64.ofInt_toInt]

/-- A value is what its JSON gives. -/
theorem ofJson_toJson (v : Value) : ofJson v.toJson = v := by
  cases v with
  | int n => exact ofInteger_toInt n
  | _ => rfl

theorem reread_toJson {v : Value} (hv : ∀ x, v = .real x → x.isFinite = true ∧ Json.ReadsBack x) :
    v.toJson.reread = v.toJson := by
  cases v with
  | real x => exact (hv x rfl).2.reread (hv x rfl).1
  | _ => rfl

theorem readable_toJson {v : Value} (hv : ∀ x, v = .real x → x.isFinite = true) (depth : Nat) :
    Json.Readable v.toJson depth := by
  cases v with
  | int n =>
    have hlow := n.le_toInt
    have hhigh := n.toInt_lt
    rw [toJson, Json.Readable]
    omega
  | real x => exact hv x rfl
  | null => exact trivial
  | text s => exact trivial

end Value

namespace Specimen

variable {r : Specimen}

/-! ## Objects -/

theorem entries_nodup (r : Specimen) : (r.entries.map Prod.fst).Nodup := by
  have hnames : r.entries.map Prod.fst = Field.all.map Field.name := by
    simp only [entries, List.map_map, Function.comp_def]
  rw [hnames]
  decide

theorem toJson_eq (r : Specimen) : r.toJson = .object (r.entries.map fun e => (e.1, e.2.toJson)) := rfl

theorem ofObject_eq (members : List (String × Json)) :
    ofObject (.object members) = (ofFields (members.map fun m => (m.1, Value.ofJson m.2))).mapError .row := rfl

theorem mem_lengths {e : String × Value} (he : e ∈ r.entries) {x : Binary64} (hx : e.2 = .real x) :
    x ∈ r.lengths := by
  obtain ⟨field, rfl⟩ := mem_entries.mp he
  by_cases hfield : field = .species
  · subst hfield
    cases hx
  · dsimp only at hx
    rw [r.get_length (type_eq_float hfield)] at hx
    exact Value.real.inj hx ▸ r.length_mem (type_eq_float hfield)

theorem reread_toJson (hr : r.IsFinite) (hback : ∀ x ∈ r.lengths, Json.ReadsBack x) :
    r.toJson.reread = .object (Json.orderedMembers (r.entries.map fun e => (e.1, e.2.toJson))) := by
  rw [toJson_eq, Json.reread, Json.rereadMembers_eq, List.map_map]
  congr 2
  refine List.map_congr_left fun e he => congrArg (e.1, ·) (Value.reread_toJson fun x hx => ?_)
  have hmem := mem_lengths he hx
  exact ⟨hr x hmem, hback x hmem⟩

theorem ofObject_reread_toJson (hr : r.IsFinite) (hback : ∀ x ∈ r.lengths, Json.ReadsBack x) :
    ofObject r.toJson.reread = .ok { specimen := r, dropped := [] } := by
  rw [reread_toJson hr hback]
  generalize hmembers : (r.entries.map fun e => (e.1, e.2.toJson)) = members
  have hnodup : (members.map Prod.fst).Nodup := by
    rw [← hmembers, List.map_map]
    exact entries_nodup r
  have hback : (members.map fun m => (m.1, Value.ofJson m.2)) = r.entries := by
    rw [← hmembers, List.map_map]
    simp only [Function.comp_def, Value.ofJson_toJson, Prod.mk.eta, List.map_id']
  have hrow := (Json.orderedMembers_perm hnodup).map fun m => (m.1, Value.ofJson m.2)
  rw [hback] at hrow
  rw [ofObject_eq, ofFields_perm hr hrow, mapError_ok]

theorem readable_toJson (hr : r.IsFinite) (depth : Nat) : Json.Readable r.toJson (depth + 1) := by
  rw [toJson_eq, Json.Readable]
  refine ⟨depth, rfl, Json.membersReadable_iff.mpr fun m hm => ?_⟩
  obtain ⟨e, he, rfl⟩ := List.mem_map.mp hm
  exact Value.readable_toJson (fun x hx => hr x (mem_lengths he hx)) depth

/-! ## Texts -/

/-- The text of specimens is an array with one element for each of them. -/
theorem parse_recordsJson {records : List Specimen} (h : ∀ r ∈ records, r.IsFinite) :
    Json.parse (Http.recordsJson records) = .ok (.array (records.map fun r => r.toJson.reread)) := by
  have hreadable : Json.Readable (.array (records.map toJson)) (Json.depthLimit - 1) := by
    rw [Json.Readable]
    refine ⟨126, rfl, Json.elementsReadable_iff.mpr fun v hv => ?_⟩
    obtain ⟨r, hr, rfl⟩ := List.mem_map.mp hv
    exact readable_toJson (h r hr) 125
  rw [Http.recordsJson, Json.parse_render hreadable, Json.reread, Json.rereadElements_eq, List.map_map]
  rfl

/-- The JSON text of specimens, a list or a single one, loads as the specimens, in their order and without a warning, if
the text of every length parses back to the length. -/
theorem ofJson_export {records : List Specimen} (h : ∀ r ∈ records, r.Built)
    (hback : ∀ r ∈ records, ∀ x ∈ r.lengths, Json.ReadsBack x) :
    (∃ readings, ofJson (Http.recordsJson records) = .ok readings ∧ readings.map Reading.specimen = records ∧
      ∀ reading ∈ readings, reading.dropped = [] ∧ reading.warning? = none) ∧
    ∀ r ∈ records, ∃ reading, ofJson r.toJson.render = .ok [reading] ∧ reading.specimen = r ∧
      reading.dropped = [] ∧ reading.warning? = none := by
  have hfinite : ∀ r ∈ records, r.IsFinite := fun r hr => (h r hr).isFinite
  constructor
  · have hrows : (records.map fun r => r.toJson.reread).mapM ofObject =
        .ok (records.map fun r => { specimen := r, dropped := [] }) := by
      rw [List.mapM_map]
      exact mapM_eq_ok fun r hr => ofObject_reread_toJson (hfinite r hr) (hback r hr)
    refine ⟨records.map fun r => { specimen := r, dropped := [] }, ?_, ?_, ?_⟩
    · rw [ofJson, parse_recordsJson hfinite]
      exact hrows
    · rw [List.map_map]
      exact List.map_id' records
    · intro reading hreading
      obtain ⟨r, _, rfl⟩ := List.mem_map.mp hreading
      exact ⟨rfl, rfl⟩
  · intro r hr
    have hrow := ofObject_reread_toJson (hfinite r hr) (hback r hr)
    refine ⟨{ specimen := r, dropped := [] }, ?_, rfl, rfl, rfl⟩
    rw [reread_toJson (hfinite r hr) (hback r hr)] at hrow
    rw [ofJson, Json.parse_render (readable_toJson (hfinite r hr) 126), mapError_ok, ok_bind,
      reread_toJson (hfinite r hr) (hback r hr)]
    -- an object is loaded as a list of one row
    show [_].mapM ofObject = _
    rw [List.mapM_cons, hrow]
    rfl

/-- Specimens with lengths at the ends of the range and characters that are escaped. -/
def corners : List Specimen :=
  [{ sepalLength := Binary64.negativeZero, sepalWidth := { negative := false, rank := 1 },
     petalLength := { negative := true, rank := Binary64.infinityRank - 1, rank_lt := by decide },
     petalWidth := .ofRatio false 51 10, species := "I. \"setosa\"\n\\ \u0001 \u00e9" },
   {}]

theorem ofJson_export_corners :
    (∀ r ∈ corners, r.Built) ∧ (∀ r ∈ corners, ∀ x ∈ r.lengths, Json.ReadsBack x) ∧
    (∃ readings, ofJson (Http.recordsJson corners) = .ok readings ∧ readings.map Reading.specimen = corners ∧
      ∀ reading ∈ readings, reading.dropped = [] ∧ reading.warning? = none) ∧
    ∀ r ∈ corners, ∃ reading, ofJson r.toJson.render = .ok [reading] ∧ reading.specimen = r ∧
      reading.dropped = [] ∧ reading.warning? = none := by
  have hfinite : ∀ r ∈ corners, r.IsFinite := by decide +kernel
  have hbuilt : ∀ r ∈ corners, r.Built := fun r hr => built_iff.mpr (hfinite r hr)
  have hsame : ∀ r ∈ corners, ∀ x ∈ r.lengths, Json.readBack x = x := by decide +kernel
  have hback : ∀ r ∈ corners, ∀ x ∈ r.lengths, Json.ReadsBack x := fun r hr x hx =>
    (Json.readsBack_iff (hfinite r hr x hx)).mpr (hsame r hr x hx)
  exact ⟨hbuilt, hback, ofJson_export hbuilt hback⟩

end Specimen

end Herbarium
