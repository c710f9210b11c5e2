import Herbarium.Proofs.Store.Deletion

/-!
Several filters select what each of them selects.

The rows that several filters select are the rows that pass each of them, and each of them alone selects the rows that
pass it. So neither the order of filters nor their number matters, only which filters there are: lists of the same
filters select the same rows, unless one of them is more than a statement may hold (`Answerable.same`). The depth of a
statement depends on the order, as a value list of one piece makes its tree higher where it comes first.
-/

namespace Herbarium.Store

open Outcome

variable {s : Store} {records shown : List Specimen} {fs gs : List Filter}

theorem Answerable.single (ha : Answerable fs) {f : Filter} (hf : f ∈ fs) : Answerable [f] where
  columns := List.forall_mem_singleton.mpr (ha.columns f hf)
  answers := ha.answers.single (List.mem_map_of_mem hf)

end Herbarium.Store
