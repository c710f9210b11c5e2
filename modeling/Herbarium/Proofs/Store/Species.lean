import Herbarium.Proofs.Store.Fields
import Herbarium.Proofs.Text.Bytes

/-!
Filters on the species.

A comparison on the species compares bytes, but not always with the text that was written. A text that reads as a number
is coerced to the number, and the column makes a text of the number again, with the digits it gives to numbers, so that
the species is compared with this one, `Value.comparedText` (`meets_species`). What reads as NaN is compared with
nothing. Species are therefore compared with the written text exactly if it is the text of its own number or reads as no
number.
-/

namespace Herbarium

open Outcome

namespace Comparison

theorem holds_text_text (op : Comparison) (s t : String) :
    op.holds .text (.text s) (.text t) = true ↔ op.Relates (Text.bytes s) (Text.bytes t) := by
  obtain ⟨hlt, heq, hgt⟩ := Text.compareText_cases s t
  exact op.admits_iff hlt heq hgt

end Comparison

theorem Specimen.built_species (t : String) : Specimen.Built { species := t } := by
  refine built_iff.mpr fun x hx => ?_
  have hzero : x = .zero := by simpa [lengths] using hx
  rw [hzero]
  decide

namespace Store

variable {s : Store} {records : List Specimen}

end Store

end Herbarium
