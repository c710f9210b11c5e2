import Herbarium.Specimen.Edit
import Herbarium.Proofs.Binary64.Rounding
import Herbarium.Proofs.Specimen.Loading
import Herbarium.Proofs.Store.Sessions

/-!
Specimens that are edited.

An edit runs on a specimen in place, and a fault leaves what was written until then. It is the assignment all the same:
it ends with the assigned specimen, or with a fault and the specimen it ran on (`edit_on`). Which edits fail does not
depend on the specimen: those of a name that is no field, and those of a length by a value that is `Refused`. However a
specimen was obtained, by default, from named values, by edits whether they failed or not, from a text or from a store,
its lengths are finite; so it is read back from its own entries (`obtained_edit`).
-/

namespace Herbarium

open Outcome

/-- The values that no length takes: text that is neither blank nor a number, and numbers that are not finite, as such
or in text. -/
inductive Value.Refused : Value → Prop where
  | notNumber {s : String} : Text.isBlankText s = false → Binary64.read? (Text.trim s) = none → Refused (.text s)
  | notFiniteText {s : String} {x : Binary64} : Text.isBlankText s = false → Binary64.read? (Text.trim s) = some x →
      x.isFinite = false → Refused (.text s)
  | notFinite {x : Binary64} : x.isFinite = false → Refused (.real x)

namespace Specimen

variable {r r' : Specimen} {field : Field} {name : String} {v : Value}

/-- The specimens there are, through whatever steps they were obtained. -/
inductive Obtained : Specimen → Prop where
  | blank : Obtained {}
  | read {row : Row} {reading : Reading} : ofFields row = .ok reading → Obtained reading.specimen
  | edited {r : Specimen} (name : String) (v : Value) : Obtained r → Obtained ((edit name v).on r).2
  | csv {source : String} {readings : List Reading} {reading : Reading} :
      ofCsv source = .ok readings → reading ∈ readings → Obtained reading.specimen
  | json {source : String} {readings : List Reading} {reading : Reading} :
      ofJson source = .ok readings → reading ∈ readings → Obtained reading.specimen
  | selected {store : Store} {filters : List Filter} {records : List Specimen} {r : Specimen} :
      store.select filters = .ok records → r ∈ records → Obtained r

/-! ## Edits are assignments -/

theorem overwriteLength_on (write : Binary64 → Specimen → Specimen) (r : Specimen) :
    (overwriteLength field v write).on r =
      match lengthOf field v with
      | .ok x => (.ok (), write x r)
      | .error f => (.error f, r) := by
  unfold overwriteLength Edit.on
  cases lengthOf field v with
  | ok x => rfl
  | error f => rfl

theorem overwrite_on (field : Field) (v : Value) (r : Specimen) :
    (overwrite field v).on r =
      match r.assign field v with
      | .ok r' => (.ok (), r')
      | .error f => (.error f, r) := by
  cases field with
  | species => rfl
  | _ =>
    rw [overwrite, overwriteLength_on, assign]
    cases lengthOf _ v with
    | ok x => rfl
    | error f => rfl

/-- An edit ends with the assigned specimen, or with a fault and the specimen as it was. -/
theorem edit_on (name : String) (v : Value) (r : Specimen) :
    (edit name v).on r =
      match r.set name v with
      | .ok r' => (.ok (), r')
      | .error f => (.error f, r) := by
  unfold edit set
  cases Field.ofName? name with
  | some field => exact overwrite_on field v r
  | none => rfl

/-! ## Which assignments fail -/

theorem ofName?_eq_none (h : ∀ field : Field, field.name ≠ name) : Field.ofName? name = none := by
  rw [Field.ofName?, List.find?_eq_none]
  intro field _ hname
  exact h field (beq_iff_eq.mp hname)

theorem lengthOf_eq : lengthOf field v =
    match numberOf field v with
    | .ok x => if x.isFinite then .ok x else .error (.notFinite field x)
    | .error f => .error f := by
  unfold lengthOf
  cases numberOf field v with
  | ok x => rfl
  | error f => rfl

theorem numberOf_int_isFinite (n : Int64) : (Binary64.ofInt n.toInt).isFinite = true := by
  apply Binary64.ofInt_isFinite
  have hlow := n.le_toInt
  have hhigh := n.toInt_lt
  omega

theorem lengthOf_refused (hv : v.Refused) :
    ∃ f detail, lengthOf field v = .error f ∧ f.toError = .parse detail := by
  rw [lengthOf_eq]
  cases hv with
  | @notNumber s hblank hread =>
    refine ⟨.notNumber field s, _, ?_, rfl⟩
    simp [numberOf, hblank, hread]
  | @notFiniteText s x hblank hread hx =>
    refine ⟨.notFinite field x, _, ?_, rfl⟩
    simp [numberOf, hblank, hread, hx]
  | @notFinite x hx =>
    refine ⟨.notFinite field x, _, ?_, rfl⟩
    simp [numberOf, hx]

theorem lengthOf_not_refused (hv : ¬ v.Refused) : ∃ x, lengthOf field v = .ok x ∧ numberOf field v = .ok x := by
  have hok : ∀ x, numberOf field v = .ok x → x.isFinite = true →
      ∃ x, lengthOf field v = .ok x ∧ numberOf field v = .ok x := by
    intro x hx hfinite
    refine ⟨x, ?_, hx⟩
    rw [lengthOf_eq, hx]
    exact if_pos hfinite
  cases v with
  | null => exact hok _ rfl (by decide)
  | int n => exact hok _ rfl (numberOf_int_isFinite n)
  | real x =>
    refine hok x rfl ?_
    by_contra hx
    exact hv (.notFinite (Bool.eq_false_iff.mpr hx))
  | text s =>
    cases hblank : Text.isBlankText s with
    | true => exact hok .zero (by rw [numberOf, if_pos hblank]) (by decide)
    | false =>
      cases hread : Binary64.read? (Text.trim s) with
      | none => exact absurd (.notNumber hblank hread) hv
      | some x =>
        refine hok x (by simp [numberOf, hblank, hread]) ?_
        by_contra hx
        exact hv (.notFiniteText hblank hread (Bool.eq_false_iff.mpr hx))

/-! ## Which edits fail -/

theorem edit_unknown (hname : ∀ field : Field, field.name ≠ name) (r : Specimen) :
    (edit name v).on r = (.error (.unknownField name), r) := by
  rw [edit_on, set, ofName?_eq_none hname]

theorem edit_name_on (field : Field) (v : Value) (r : Specimen) :
    (edit field.name v).on r =
      match r.assign field v with
      | .ok r' => (.ok (), r')
      | .error f => (.error f, r) := by
  rw [edit_on, set, ofName?_name]

theorem edit_refused (hfield : field ≠ .species) (hv : v.Refused) (r : Specimen) :
    ∃ f detail, (edit field.name v).on r = (.error f, r) ∧ f.toError = .parse detail := by
  obtain ⟨f, detail, hf, herror⟩ := lengthOf_refused hv
  refine ⟨f, detail, ?_, herror⟩
  rcases assign_length hfield with ⟨f', hf', hassign⟩ | ⟨x, _, hx, _⟩
  · rw [edit_name_on, hassign, Except.error.inj (hf.symm.trans hf')]
  · rw [hf] at hx
    cases hx

theorem edit_length (hfield : field ≠ .species) (hv : ¬ v.Refused) (r : Specimen) :
    ∃ x r', numberOf field v = .ok x ∧ (edit field.name v).on r = (.ok (), r') ∧ r'.get field = .real x ∧
      ∀ other, other ≠ field → r'.get other = r.get other := by
  obtain ⟨x, hlength, hnumber⟩ := lengthOf_not_refused hv
  rcases assign_length hfield with ⟨f, hf, _⟩ | ⟨y, r', hy, hassign, hget, hother⟩
  · rw [hlength] at hf
    cases hf
  · obtain rfl := Except.ok.inj (hy.symm.trans hlength)
    exact ⟨y, r', hnumber, by rw [edit_name_on, hassign], hget, hother⟩

theorem edit_species (v : Value) (r : Specimen) :
    ∃ r', (edit Field.species.name v).on r = (.ok (), r') ∧ r'.get .species = .text (textOf v) ∧
      ∀ other, other ≠ .species → r'.get other = r.get other := by
  obtain ⟨r', hassign, hget, hother⟩ := assign_species r v
  exact ⟨r', by rw [edit_name_on, hassign], hget, hother⟩

/-! ## Specimens however they were obtained -/

theorem edit_on_cases (name : String) (v : Value) (r : Specimen) :
    ((edit name v).on r).2 = r ∨ r.set name v = .ok ((edit name v).on r).2 := by
  rw [edit_on]
  cases r.set name v with
  | ok r' => exact Or.inr rfl
  | error f => exact Or.inl rfl

theorem selected_built {store : Store} {filters : List Filter} {records : List Specimen}
    (h : store.select filters = .ok records) : ∀ r ∈ records, r.Built := by
  intro r hr
  rw [store.select_steps] at h
  obtain ⟨rows, _, hread⟩ := bind_eq_ok.mp h
  obtain ⟨row, _, hrow⟩ := mem_of_mapM_ok hread r hr
  obtain ⟨reading, hreading, rfl⟩ := map_eq_ok (mapError_eq_ok.mp hrow)
  exact Built.read hreading

theorem Obtained.built (h : r.Obtained) : r.Built := by
  induction h with
  | blank => exact Built.blank
  | read hread => exact Built.read hread
  | @edited r name v _ ih =>
    rcases edit_on_cases name v r with hsame | hset
    · rw [hsame]
      exact ih
    · exact ih.set hset
  | csv hload hmem => exact ofCsv_built hload _ hmem
  | json hload hmem => exact ofJson_built hload _ hmem
  | selected hselect hmem => exact selected_built hselect _ hmem

/-- However a specimen was obtained, its lengths are finite, and it is read back from its own entries. An edit of a name
that is no field, and an edit of a length by a refused value, fail, the one as an error of the schema and the other as
one of the value, and leave the specimen as it was. Every other edit succeeds, writes the value into its field and
leaves the other fields as they were. -/
theorem obtained_edit (h : r.Obtained) :
    r.IsFinite ∧
    (∀ (name : String) (v : Value), (∀ field : Field, field.name ≠ name) →
      ∃ f detail, (edit name v).on r = (.error f, r) ∧ f.toError = .schema detail) ∧
    (∀ (field : Field) (v : Value), field ≠ .species → v.Refused →
      ∃ f detail, (edit field.name v).on r = (.error f, r) ∧ f.toError = .parse detail) ∧
    (∀ (field : Field) (v : Value), field = .species ∨ ¬ v.Refused →
      ∃ r' written, (edit field.name v).on r = (.ok (), r') ∧ r'.Obtained ∧ r'.get field = written ∧
        (if field = .species then written = .text (textOf v)
          else ∃ x, numberOf field v = .ok x ∧ written = .real x) ∧
        ∀ other, other ≠ field → r'.get other = r.get other) ∧
    ofFields r.entries = .ok { specimen := r, dropped := [] } := by
  have hfinite : r.IsFinite := h.built.isFinite
  refine ⟨hfinite, ?_, ?_, ?_, ofFields_entries hfinite⟩
  · intro name v hname
    exact ⟨.unknownField name, _, edit_unknown hname r, rfl⟩
  · intro field v hfield hv
    exact edit_refused hfield hv r
  · intro field v hv
    have hedited := h.edited field.name v
    by_cases hfield : field = .species
    · subst hfield
      obtain ⟨r', hon, hget, hother⟩ := edit_species v r
      rw [hon] at hedited
      exact ⟨r', _, hon, hedited, hget, rfl, hother⟩
    · obtain ⟨x, r', hnumber, hon, hget, hother⟩ := edit_length hfield (hv.resolve_left hfield) r
      rw [hon] at hedited
      refine ⟨r', .real x, hon, hedited, hget, ?_, hother⟩
      rw [if_neg hfield]
      exact ⟨x, hnumber, rfl⟩

/-- Infinity by name and by size is refused by a length that a number was written into, and a name in capitals by the
specimen. -/
theorem obtained_edit_infinite :
    ((edit "petal_width" (.text " 0.2 ")).on {}).2.Obtained ∧
    (∃ f detail, (edit "petal_width" (.text " -Inf")).on ((edit "petal_width" (.text " 0.2 ")).on {}).2 =
      (.error f, ((edit "petal_width" (.text " 0.2 ")).on {}).2) ∧ f.toError = .parse detail) ∧
    (∃ f detail, (edit "petal_width" (.text "1e309")).on ((edit "petal_width" (.text " 0.2 ")).on {}).2 =
      (.error f, ((edit "petal_width" (.text " 0.2 ")).on {}).2) ∧ f.toError = .parse detail) ∧
    ∃ f detail, (edit "SPECIES" .null).on ((edit "petal_width" (.text " 0.2 ")).on {}).2 =
      (.error f, ((edit "petal_width" (.text " 0.2 ")).on {}).2) ∧ f.toError = .schema detail := by
  have hobtained := Obtained.blank.edited "petal_width" (.text " 0.2 ")
  obtain ⟨_, hunknown, hrefused, _⟩ := obtained_edit hobtained
  have hinfinity : Value.Refused (.text " -Inf") :=
    .notFiniteText (x := Binary64.infinity true) (by decide) (by decide +kernel) (by decide)
  have hlarge : Value.Refused (.text "1e309") :=
    .notFiniteText (x := Binary64.infinity false) (by decide) (by decide +kernel) (by decide)
  have hcapitals : ∀ field : Field, field.name ≠ "SPECIES" := by
    intro field
    cases field <;> decide
  exact ⟨hobtained, hrefused .petalWidth _ (by decide) hinfinity, hrefused .petalWidth _ (by decide) hlarge,
    hunknown _ _ hcapitals⟩

end Specimen

end Herbarium
