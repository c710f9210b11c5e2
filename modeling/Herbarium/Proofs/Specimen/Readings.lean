import Herbarium.Proofs.Specimen.Editing

/-!
Specimens read from named values.

Reading is setting the pairs that name a field one after the other, and collecting the names that name none
(`readRow_eq`). It stops at the first pair it `Refuses`; a later pair of the same name does not mend that. If there is
none, every field has the value of the last pair that names it, or the blank specimen's (`readRow_cases`, by induction
on the row). So the order of pairs matters only among pairs of one name (`read?_perm`).
-/

namespace Herbarium

open Outcome

/-! ## Rows -/

namespace Row

/-- The names of fields. -/
def fieldNames : List String := Field.all.map Field.name

/-- The pairs that name a field. -/
def declared (row : Row) : Row := row.filter fun e => e.1 ∈ fieldNames

/-- The names that are no field's, in their order and with repeats. -/
def undeclared (row : Row) : List String := (row.map Prod.fst).filter fun name => name ∉ fieldNames

/-- The value of the last pair of a name. -/
def last? (row : Row) (name : String) : Option Value := (row.findRev? fun e => e.1 == name).map Prod.snd

variable {row row' : Row} {e : String × Value} {name : String} {field : Field} {v : Value}

theorem name_mem_fieldNames (field : Field) : field.name ∈ fieldNames := by
  cases field <;> decide

theorem mem_fieldNames : name ∈ fieldNames ↔ ∃ field : Field, name = field.name := by
  constructor
  · intro h
    obtain ⟨field, _, rfl⟩ := List.mem_map.mp h
    exact ⟨field, rfl⟩
  · rintro ⟨field, rfl⟩
    exact name_mem_fieldNames field

/-- A pair names a field or it does not. -/
theorem pair_cases (e : String × Value) : (∃ (field : Field) (v : Value), e = (field.name, v)) ∨ e.1 ∉ fieldNames := by
  obtain ⟨name, v⟩ := e
  by_cases h : name ∈ fieldNames
  · obtain ⟨field, rfl⟩ := mem_fieldNames.mp h
    exact Or.inl ⟨field, v, rfl⟩
  · exact Or.inr h

theorem declared_cons_field (field : Field) (v : Value) (row : Row) :
    declared ((field.name, v) :: row) = (field.name, v) :: declared row :=
  List.filter_cons_of_pos (by simp [name_mem_fieldNames])

theorem declared_cons_other (h : e.1 ∉ fieldNames) (row : Row) : declared (e :: row) = declared row :=
  List.filter_cons_of_neg (by simp [h])

theorem undeclared_cons_field (field : Field) (v : Value) (row : Row) :
    undeclared ((field.name, v) :: row) = undeclared row :=
  List.filter_cons_of_neg (by simp [name_mem_fieldNames])

theorem undeclared_cons_other (h : e.1 ∉ fieldNames) (row : Row) :
    undeclared (e :: row) = e.1 :: undeclared row :=
  List.filter_cons_of_pos (by simp [h])

theorem declared_names (row : Row) : row.declared.map Prod.fst = (row.map Prod.fst).filter (· ∈ fieldNames) := by
  rw [declared, List.filter_map]
  rfl

theorem last?_cons (e : String × Value) (row : Row) (name : String) :
    last? (e :: row) name = (last? row name).or (if e.1 = name then some e.2 else none) := by
  unfold last?
  rw [List.findRev?]
  cases row.findRev? fun e => e.1 == name with
  | some e' => rfl
  | none => by_cases h : e.1 = name <;> simp [h]

theorem mem_of_last? : ∀ {row : Row}, row.last? name = some v → (name, v) ∈ row
  | [], h => by cases h
  | e :: row, h => by
    rw [last?_cons, Option.or_eq_some_iff] at h
    rcases h with h | ⟨_, h⟩
    · exact List.mem_cons_of_mem e (mem_of_last? h)
    · split at h
      · next hname =>
        cases h
        rw [← hname]
        exact List.mem_cons_self
      · cases h

theorem last?_ne_none : ∀ {row : Row}, (name, v) ∈ row → row.last? name ≠ none
  | e :: row, h => by
    rw [last?_cons, Ne, Option.or_eq_none_iff]
    rintro ⟨hrow, he⟩
    rcases List.mem_cons.mp h with rfl | h
    · simp at he
    · exact last?_ne_none h hrow

/-- Where the names of fields differ, the last pair of a field is the only one. -/
theorem last?_eq_some_iff (h : (row.declared.map Prod.fst).Nodup) :
    row.last? field.name = some v ↔ (field.name, v) ∈ row := by
  refine ⟨mem_of_last?, fun hmem => ?_⟩
  obtain ⟨w, hw⟩ := Option.ne_none_iff_exists'.mp (last?_ne_none hmem)
  have hdeclared : ∀ u, (field.name, u) ∈ row → (field.name, u) ∈ row.declared := fun u hu =>
    List.mem_filter.mpr ⟨hu, by simp [name_mem_fieldNames]⟩
  have hsame := List.inj_on_of_nodup_map h (hdeclared v hmem) (hdeclared w (mem_of_last? hw)) rfl
  rw [hw, (Prod.mk.inj hsame).2]

theorem last?_perm (h : (row.declared.map Prod.fst).Nodup) (hperm : row.Perm row') (field : Field) :
    row.last? field.name = row'.last? field.name := by
  have h' : (row'.declared.map Prod.fst).Nodup := (((hperm.filter _).map Prod.fst).nodup_iff).mp h
  ext v
  rw [last?_eq_some_iff h, last?_eq_some_iff h', hperm.mem_iff]

end Row

namespace Specimen

variable {row row' : Row} {r r' : Specimen} {dropped : List String} {e : String × Value} {field : Field} {v w : Value}
  {f : Fault} {reading : Reading}

/-- What a field holds after a value was assigned to it. -/
def coerced (field : Field) (v : Value) : Except Fault Value :=
  if field = .species then .ok (.text (textOf v)) else (lengthOf field v).map .real

/-- A specimen with the pairs of a row set one after the other. -/
def setAll (r : Specimen) (row : Row) : Except Fault Specimen :=
  row.foldlM (fun (r : Specimen) (e : String × Value) => r.set e.1 e.2) r

/-- Whether a pair gives a length a value that no length takes. -/
def Refuses (e : String × Value) : Prop :=
  ∃ (field : Field) (v : Value), e = (field.name, v) ∧ field ≠ .species ∧ v.Refused

/-- What a field holds after a row was read: the value of the last pair that names it, or what it held before. -/
def lastValue (r : Specimen) (row : Row) (field : Field) : Except Fault Value :=
  match row.last? field.name with
  | some v => coerced field v
  | none => .ok (r.get field)

/-! ## One pair -/

theorem ofName?_undeclared (h : e.1 ∉ Row.fieldNames) : Field.ofName? e.1 = none :=
  ofName?_eq_none fun field hname => h (hname ▸ Row.name_mem_fieldNames field)

theorem coerced_species (v : Value) : coerced .species v = .ok (.text (textOf v)) := if_pos rfl

theorem coerced_length (hfield : field ≠ .species) (v : Value) : coerced field v = (lengthOf field v).map .real :=
  if_neg hfield

theorem coerced_refused (hfield : field ≠ .species) (hv : v.Refused) :
    ∃ f, lengthOf field v = .error f ∧ coerced field v = .error f := by
  obtain ⟨f, _, hf, _⟩ : ∃ f detail, lengthOf field v = .error f ∧ f.toError = .parse detail := lengthOf_refused hv
  refine ⟨f, hf, ?_⟩
  rw [coerced_length hfield, hf]
  rfl

theorem coerced_accepted (h : ¬ Refuses (field.name, v)) : ∃ w, coerced field v = .ok w := by
  by_cases hfield : field = .species
  · subst hfield
    exact ⟨_, coerced_species v⟩
  · obtain ⟨x, hx, _⟩ : ∃ x, lengthOf field v = .ok x ∧ numberOf field v = .ok x :=
      lengthOf_not_refused fun hv => h ⟨field, v, rfl, hfield, hv⟩
    rw [coerced_length hfield, hx]
    exact ⟨_, rfl⟩

theorem assign_error (h : coerced field v = .error f) (r : Specimen) : r.assign field v = .error f := by
  by_cases hfield : field = .species
  · subst hfield
    rw [coerced_species] at h
    cases h
  · rw [coerced_length hfield] at h
    rcases assign_length (r := r) (v := v) hfield with ⟨f', hf', hassign⟩ | ⟨x, _, hx, _⟩
    · rw [hf'] at h
      cases h
      exact hassign
    · rw [hx] at h
      cases h

theorem assign_ok (h : coerced field v = .ok w) (r : Specimen) :
    ∃ r', r.assign field v = .ok r' ∧ r'.get field = w ∧ ∀ other, other ≠ field → r'.get other = r.get other := by
  by_cases hfield : field = .species
  · subst hfield
    rw [coerced_species] at h
    cases h
    exact assign_species r v
  · rw [coerced_length hfield] at h
    rcases assign_length (r := r) (v := v) hfield with ⟨f, hf, _⟩ | ⟨x, r', hx, hassign, hget, hother⟩
    · rw [hf] at h
      cases h
    · rw [hx] at h
      cases h
      exact ⟨r', hassign, hget, hother⟩

/-! ## The whole row -/

theorem readRow_field (r : Specimen) (dropped : List String) (field : Field) (v : Value) (row : Row) :
    readRow r dropped ((field.name, v) :: row) = r.assign field v >>= fun r' => readRow r' dropped row := by
  simp only [readRow, ofName?_name]
  cases r.assign field v with
  | ok r' => rfl
  | error f => rfl

theorem readRow_other (h : e.1 ∉ Row.fieldNames) (r : Specimen) (dropped : List String) (row : Row) :
    readRow r dropped (e :: row) = readRow r (e.1 :: dropped) row := by
  rw [readRow, ofName?_undeclared h]

theorem set_name (r : Specimen) (field : Field) (v : Value) : r.set field.name v = r.assign field v := by
  rw [set, ofName?_name]

theorem setAll_cons (r : Specimen) (name : String) (v : Value) (row : Row) :
    r.setAll ((name, v) :: row) = r.set name v >>= fun r' => r'.setAll row := rfl

/-- Reading is setting the pairs that name a field one after the other. -/
theorem readRow_eq (r : Specimen) (dropped : List String) (row : Row) :
    readRow r dropped row =
      (r.setAll row.declared).map fun r' => { specimen := r', dropped := dropped.reverse ++ row.undeclared } := by
  induction row generalizing r dropped with
  | nil =>
    have hnil : dropped.reverse ++ Row.undeclared [] = dropped.reverse := List.append_nil _
    rw [hnil]
    rfl
  | cons e row ih =>
    rcases Row.pair_cases e with ⟨field, v, rfl⟩ | he
    · rw [readRow_field, Row.declared_cons_field, Row.undeclared_cons_field, setAll_cons, set_name]
      cases r.assign field v with
      | ok r' => exact ih r' dropped
      | error f => rfl
    · rw [readRow_other he, Row.declared_cons_other he, Row.undeclared_cons_other he, ih, List.reverse_cons,
        List.append_assoc, List.singleton_append]

theorem readRow_append (r : Specimen) (dropped : List String) (before after : Row) :
    readRow r dropped (before ++ after) =
      readRow r dropped before >>= fun reading => readRow reading.specimen reading.dropped.reverse after := by
  induction before generalizing r dropped with
  | nil =>
    show _ = readRow r dropped.reverse.reverse after
    rw [List.reverse_reverse]
    rfl
  | cons e before ih =>
    rcases Row.pair_cases e with ⟨field, v, rfl⟩ | he
    · rw [List.cons_append, readRow_field, readRow_field]
      cases r.assign field v with
      | ok r' => exact ih r' dropped
      | error f => rfl
    · rw [List.cons_append, readRow_other he, readRow_other he, ih]

/-- A pair that is not refused is taken or dropped, and the specimen it leaves is where the rest of the row starts. -/
theorem readRow_accepted (h : ¬ Refuses e) (r : Specimen) (dropped : List String) :
    ∃ r₁ dropped₁, (∀ row, readRow r dropped (e :: row) = readRow r₁ dropped₁ row) ∧
      ∀ row field, lastValue r (e :: row) field = lastValue r₁ row field := by
  rcases Row.pair_cases e with ⟨field, v, rfl⟩ | he
  · obtain ⟨w, hw⟩ := coerced_accepted h
    obtain ⟨r₁, hassign, hget, hother⟩ := assign_ok hw r
    refine ⟨r₁, dropped, fun row => ?_, fun row other => ?_⟩
    · rw [readRow_field, hassign, ok_bind]
    · unfold lastValue
      rw [Row.last?_cons]
      cases Row.last? row other.name with
      | some u => rfl
      | none =>
        by_cases hsame : other = field
        · subst hsame
          simp [hw, hget]
        · have hname : field.name ≠ other.name := fun h => hsame (name_injective h).symm
          simp [hname, hother other hsame]
  · refine ⟨r, e.1 :: dropped, readRow_other he r dropped, fun row field => ?_⟩
    have hname : e.1 ≠ field.name := fun h => he (h ▸ Row.name_mem_fieldNames field)
    unfold lastValue
    rw [Row.last?_cons, if_neg hname, Option.or_none]

/-- A row is read up to the first pair that is refused. If there is none, each field has its last value. -/
theorem readRow_cases (r : Specimen) (dropped : List String) (row : Row) :
    ((∀ e ∈ row, ¬ Refuses e) ∧ ∃ reading, readRow r dropped row = .ok reading ∧
      ∀ field, lastValue r row field = .ok (reading.specimen.get field)) ∨
    ∃ before field v after f, row = before ++ (field.name, v) :: after ∧ (∀ e ∈ before, ¬ Refuses e) ∧
      field ≠ .species ∧ v.Refused ∧ lengthOf field v = .error f ∧ readRow r dropped row = .error f := by
  induction row generalizing r dropped with
  | nil => exact Or.inl ⟨fun e he => absurd he List.not_mem_nil, _, rfl, fun field => rfl⟩
  | cons e row ih =>
    by_cases hrefused : Refuses e
    · obtain ⟨field, v, rfl, hfield, hv⟩ := hrefused
      obtain ⟨f, hlength, hcoerced⟩ := coerced_refused hfield hv
      refine Or.inr ⟨[], field, v, row, f, rfl, fun e he => absurd he List.not_mem_nil, hfield, hv, hlength, ?_⟩
      rw [readRow_field, assign_error hcoerced, error_bind]
    · obtain ⟨r₁, dropped₁, hread, hvalue⟩ := readRow_accepted hrefused r dropped
      rw [hread]
      rcases ih r₁ dropped₁ with ⟨haccepted, reading, hreading, hvalues⟩ |
        ⟨before, field, v, after, f, rfl, hbefore, hfield, hv, hlength, herror⟩
      · refine Or.inl ⟨List.forall_mem_cons.mpr ⟨hrefused, haccepted⟩, reading, hreading, fun field => ?_⟩
        rw [hvalue, hvalues]
      · exact Or.inr ⟨e :: before, field, v, after, f, rfl, List.forall_mem_cons.mpr ⟨hrefused, hbefore⟩, hfield, hv,
          hlength, herror⟩

/-! ## Named values -/

theorem ofFields_eq (row : Row) :
    ofFields row = (setAll {} row.declared).map fun r => { specimen := r, dropped := row.undeclared } :=
  readRow_eq {} [] row

theorem ofFields_error_iff : (∃ f, ofFields row = .error f) ↔ ∃ e ∈ row, Refuses e := by
  rcases readRow_cases {} [] row with ⟨haccepted, reading, hread, _⟩ |
    ⟨before, field, v, after, f, rfl, _, hfield, hv, _, herror⟩
  · constructor
    · rintro ⟨f, hf⟩
      cases hf.symm.trans hread
    · rintro ⟨e, he, hrefused⟩
      exact absurd hrefused (haccepted e he)
  · have hmem : (field.name, v) ∈ before ++ (field.name, v) :: after := List.mem_append_right before List.mem_cons_self
    exact ⟨fun _ => ⟨_, hmem, field, v, rfl, hfield, hv⟩, fun _ => ⟨f, herror⟩⟩

theorem ofFields_eq_error_iff : ofFields row = .error f ↔
    ∃ before field v after, row = before ++ (field.name, v) :: after ∧ (∀ e ∈ before, ¬ Refuses e) ∧
      field ≠ .species ∧ lengthOf field v = .error f := by
  constructor
  · intro h
    rcases readRow_cases {} [] row with ⟨_, reading, hread, _⟩ |
      ⟨before, field, v, after, f', hrow, hbefore, hfield, _, hlength, herror⟩
    · cases h.symm.trans hread
    · cases h.symm.trans herror
      exact ⟨before, field, v, after, hrow, hbefore, hfield, hlength⟩
  · rintro ⟨before, field, v, after, rfl, hbefore, hfield, hlength⟩
    rcases readRow_cases {} [] before with ⟨_, reading, hread, _⟩ |
      ⟨before', field', v', after', _, rfl, _, hfield', hv', _⟩
    · have hcoerced : coerced field v = .error f := by
        rw [coerced_length hfield, hlength]
        rfl
      rw [ofFields, readRow_append, hread, ok_bind, readRow_field, assign_error hcoerced, error_bind]
    · exact absurd ⟨field', v', rfl, hfield', hv'⟩ (hbefore _ (List.mem_append_right before' List.mem_cons_self))

/-- What a field has by a row: the value of the last pair that names it, or zero or the empty text. -/
def valueIn (row : Row) (field : Field) : Except Fault Value :=
  match row.last? field.name with
  | some v => coerced field v
  | none => .ok (if field = .species then .text "" else .real .zero)

theorem valueIn_eq (row : Row) (field : Field) : valueIn row field = lastValue {} row field := by
  unfold valueIn lastValue
  cases row.last? field.name with
  | some v => rfl
  | none => cases field <;> rfl

theorem lastValue_of_ofFields (h : ofFields row = .ok reading) (field : Field) :
    lastValue {} row field = .ok (reading.specimen.get field) := by
  rcases readRow_cases {} [] row with ⟨_, reading', hread, hvalues⟩ | ⟨_, _, _, _, _, _, _, _, _, _, herror⟩
  · cases h.symm.trans hread
    exact hvalues field
  · cases h.symm.trans herror

theorem entries_of_ofFields (h : ofFields row = .ok reading) :
    Field.all.mapM (fun field => (valueIn row field).map fun w => (field.name, w)) = .ok reading.specimen.entries := by
  refine mapM_eq_ok fun field _ => ?_
  rw [valueIn_eq, lastValue_of_ofFields h]
  rfl

theorem dropped_of_ofFields (h : ofFields row = .ok reading) : reading.dropped = row.undeclared := by
  rw [ofFields_eq] at h
  obtain ⟨r, _, rfl⟩ := map_eq_ok h
  rfl

theorem warning?_of_ofFields (h : ofFields row = .ok reading) :
    reading.warning? =
      if row.undeclared = [] then none
      else some { message := "ignoring fields not defined for Iris",
                  dropped := String.intercalate ", " row.undeclared,
                  allowed := Field.allowedNames } := by
  rw [Reading.warning?, dropped_of_ofFields h]

/-- Names that are no field's have no effect on the specimen, nor on the fault. -/
theorem ofFields_declared (h : row'.declared = row.declared) :
    (ofFields row').map Reading.specimen = (ofFields row).map Reading.specimen := by
  rw [ofFields_eq, ofFields_eq, h]
  cases setAll {} row.declared with
  | ok r => rfl
  | error f => rfl

/-- The specimen of a row, if it is read. -/
def read? (row : Row) : Option Specimen := (ofFields row).toOption.map Reading.specimen

/-- Whether a row is read does not depend on the order of its pairs. -/
theorem ofFields_error_perm (hperm : row.Perm row') (h : ∃ f, ofFields row = .error f) :
    ∃ f, ofFields row' = .error f := by
  obtain ⟨e, he, hrefused⟩ := ofFields_error_iff.mp h
  exact ofFields_error_iff.mpr ⟨e, hperm.mem_iff.mp he, hrefused⟩

/-- Pairs of different fields are read as the same specimen in any order. -/
theorem read?_perm (h : (row.declared.map Prod.fst).Nodup) (hperm : row.Perm row') : read? row' = read? row := by
  cases hread : ofFields row with
  | error f =>
    obtain ⟨f', hread'⟩ := ofFields_error_perm hperm ⟨f, hread⟩
    rw [read?, read?, hread, hread']
    rfl
  | ok reading =>
    cases hread' : ofFields row' with
    | error f =>
      obtain ⟨f', hread''⟩ := ofFields_error_perm hperm.symm ⟨f, hread'⟩
      cases hread.symm.trans hread''
    | ok reading' =>
      have hsame : reading'.specimen = reading.specimen := eq_of_get fun field => by
        have hvalue := lastValue_of_ofFields hread field
        rw [lastValue, Row.last?_perm h hperm] at hvalue
        exact Except.ok.inj ((lastValue_of_ofFields hread' field).symm.trans hvalue)
      rw [read?, read?, hread, hread']
      exact congrArg some hsame

end Specimen

end Herbarium
