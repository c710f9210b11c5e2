import Herbarium.Specimen.Basic

/-!
Specimens changed in place.

An `Edit` runs on one specimen and may stop with a fault; whatever it wrote before that stays written. `edit` sets a
named field in this way: the value is checked first, and the field is written when nothing can fail any more.
-/

namespace Herbarium.Specimen

/-- A change of a specimen in place. -/
abbrev Edit := ExceptT Fault (StateM Specimen)

/-- The outcome of a change, and the specimen after it. -/
def Edit.on {α : Type} (e : Edit α) (r : Specimen) : Except Fault α × Specimen := StateT.run (ExceptT.run e) r

/-- Checks the value of a length and writes it. -/
def overwriteLength (field : Field) (v : Value) (write : Binary64 → Specimen → Specimen) : Edit Unit := do
  let x ← MonadExcept.ofExcept (lengthOf field v)
  modify (write x)

/-- Writes a field. -/
def overwrite (field : Field) (v : Value) : Edit Unit :=
  match field with
  | .sepalLength => overwriteLength field v fun x r => { r with sepalLength := x }
  | .sepalWidth => overwriteLength field v fun x r => { r with sepalWidth := x }
  | .petalLength => overwriteLength field v fun x r => { r with petalLength := x }
  | .petalWidth => overwriteLength field v fun x r => { r with petalWidth := x }
  | .species => modify fun r => { r with species := textOf v }

/-- Writes a named field. -/
def edit (name : String) (v : Value) : Edit Unit :=
  match Field.ofName? name with
  | some field => overwrite field v
  | none => throw (.unknownField name)

end Herbarium.Specimen
