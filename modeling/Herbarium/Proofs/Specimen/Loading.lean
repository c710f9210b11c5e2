import Herbarium.Specimen.Load
import Herbarium.Proofs.Specimen.Construction

/-!
Specimens that are loaded.

A text is read as specimens only as a whole: one row that cannot be assigned fails the text. Every specimen of a text
that loads comes from a row of named values, and so it is built and its lengths are finite.
-/

namespace Herbarium.Specimen

open Outcome

theorem ofRecord_built {header : List String} {record : Csv.Record} {number : Nat} {reading : Reading}
    (h : ofRecord header record number = .ok reading) : reading.specimen.Built := by
  obtain ⟨_, _, hfields⟩ := bind_eq_ok.mp h
  exact Built.read (mapError_eq_ok.mp hfields)

theorem ofCsv_built {source : String} {readings : List Reading} (h : ofCsv source = .ok readings) :
    ∀ reading ∈ readings, reading.specimen.Built := by
  intro reading hreading
  rw [ofCsv] at h
  split at h
  · cases h
    cases hreading
  · obtain ⟨_, _, hrecord⟩ := mem_of_mapM_ok h reading hreading
    exact ofRecord_built hrecord

theorem ofObject_built {j : Json} {reading : Reading} (h : ofObject j = .ok reading) : reading.specimen.Built := by
  cases j with
  | object members => exact Built.read (mapError_eq_ok.mp h)
  | _ => cases h

theorem ofJson_built {source : String} {readings : List Reading} (h : ofJson source = .ok readings) :
    ∀ reading ∈ readings, reading.specimen.Built := by
  intro reading hreading
  obtain ⟨j, _, h⟩ := bind_eq_ok.mp h
  split at h
  · obtain ⟨_, _, hobject⟩ := mem_of_mapM_ok h reading hreading
    exact ofObject_built hobject
  · obtain ⟨_, _, hobject⟩ := mem_of_mapM_ok h reading hreading
    exact ofObject_built hobject

end Herbarium.Specimen
