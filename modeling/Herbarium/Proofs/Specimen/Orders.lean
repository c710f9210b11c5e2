import Herbarium.Proofs.Specimen.Export
import Herbarium.Proofs.Specimen.Readings

/-!
The order of columns and keys.

A table whose columns are in another order, and objects whose members are, give rows of the same pairs in another
order. Where the names of fields differ these are read as the same specimens (`read?_perm`). A table fails with the
other, if not for the same field; objects are put in the order of their keys before they are read, so that not even the
fault depends on the order they were written in.
-/

namespace Herbarium

open Outcome

/-- Steps with the same results, if any, have the same results over lists. -/
theorem Outcome.mapM_toOption_congr {ε α α' β γ : Type} {f : α → Except ε β} {g : α' → Except ε β} {p : β → γ}
    {as : List α} {as' : List α'}
    (h : List.Forall₂ (fun a a' => (f a).toOption.map p = (g a').toOption.map p) as as') :
    (as.mapM f).toOption.map (List.map p) = (as'.mapM g).toOption.map (List.map p) := by
  have hcons : ∀ {δ : Type} (k : δ → Except ε β) (d : δ) (ds : List δ),
      ((d :: ds).mapM k).toOption.map (List.map p) = ((k d).toOption.map p).bind fun c =>
        ((ds.mapM k).toOption.map (List.map p)).map (c :: ·) := by
    intro δ k d ds
    rw [List.mapM_cons]
    cases k d with
    | error e => rfl
    | ok b =>
      rw [ok_bind]
      cases ds.mapM k with
      | error e => rfl
      | ok bs => rfl
  induction h with
  | nil => rfl
  | cons ha _ ih => rw [hcons, hcons, ha, ih]

/-! ## Members in another order -/

namespace Json

/-- Whether two values are objects of the same members, which have different keys. -/
def Reordered (v w : Json) : Prop :=
  ∃ members members', v = .object members ∧ w = .object members' ∧ members.Perm members' ∧
    (members.map Prod.fst).Nodup

theorem Reordered.reread {v w : Json} (h : v.Reordered w) : w.reread = v.reread := by
  obtain ⟨members, members', rfl, rfl, hperm, hkeys⟩ := h
  have hkeys' : ((members.map fun m => (m.1, m.2.reread)).map Prod.fst).Nodup := by
    rw [List.map_map]
    exact hkeys
  rw [Json.reread, Json.reread, rereadMembers_eq, rereadMembers_eq,
    orderedMembers_congr hkeys' (hperm.map _)]

theorem Reordered.readable {v w : Json} {depth : Nat} (h : v.Reordered w) (hv : v.Readable depth) :
    w.Readable depth := by
  obtain ⟨members, members', rfl, rfl, hperm, _⟩ := h
  rw [Readable] at hv ⊢
  obtain ⟨inner, hdepth, hmembers⟩ := hv
  refine ⟨inner, hdepth, membersReadable_iff.mpr fun m hm => ?_⟩
  exact membersReadable_iff.mp hmembers m (hperm.mem_iff.mpr hm)

theorem rereadElements_reordered {vs ws : List Json} (h : List.Forall₂ Reordered vs ws) :
    rereadElements ws = rereadElements vs := by
  induction h with
  | nil => rfl
  | cons hv _ ih => rw [rereadElements, rereadElements, hv.reread, ih]

theorem elementsReadable_reordered {vs ws : List Json} {depth : Nat} (h : List.Forall₂ Reordered vs ws)
    (hvs : ElementsReadable vs depth) : ElementsReadable ws depth := by
  induction h with
  | nil => exact hvs
  | cons hv _ ih => exact ⟨hv.readable hvs.1, ih hvs.2⟩

end Json

namespace Specimen

/-! ## Tables -/

/-- Whether two records hold the same fields under their headers, the columns in any order. -/
def Rearranged (header header' : List String) (record record' : Csv.Record) : Prop :=
  record.fields.length = record'.fields.length ∧
    (header.zip record.fields).Perm (header'.zip record'.fields)

theorem ofRecord_toOption (header : List String) (record : Csv.Record) (number : Nat) :
    (ofRecord header record number).toOption.map Reading.specimen =
      if record.fields.length = header.length then read? (header.zip (record.fields.map .text)) else none := by
  unfold ofRecord Csv.Record.check
  split
  · rw [mapError_ok, ok_bind, read?]
    cases ofFields (header.zip (record.fields.map .text)) with
    | ok reading => rfl
    | error f => rfl
  · rfl

theorem ofRecord_rearranged {header header' : List String} {record record' : Csv.Record}
    (hlength : header.length = header'.length) (hnames : (header.filter (· ∈ Row.fieldNames)).Nodup)
    (h : Rearranged header header' record record') (number : Nat) :
    (ofRecord header' record' number).toOption.map Reading.specimen =
      (ofRecord header record number).toOption.map Reading.specimen := by
  obtain ⟨hfields, hperm⟩ := h
  rw [ofRecord_toOption, ofRecord_toOption, ← hfields, ← hlength]
  by_cases hcount : record.fields.length = header.length
  · rw [if_pos hcount, if_pos hcount]
    refine read?_perm ?_ ?_
    · rw [Row.declared_names, List.map_fst_zip (by rw [List.length_map, hcount])]
      exact hnames
    · rw [List.zip_map_right, List.zip_map_right]
      exact hperm.map _
  · rw [if_neg hcount, if_neg hcount]

theorem forall₂_zipIdx {α β : Type} {R : α → β → Prop} {as : List α} {bs : List β} (h : List.Forall₂ R as bs)
    (n : Nat) : List.Forall₂ (fun a b => R a.1 b.1 ∧ a.2 = b.2) (as.zipIdx n) (bs.zipIdx n) := by
  induction h generalizing n with
  | nil => exact List.Forall₂.nil
  | cons hab _ ih => exact List.Forall₂.cons ⟨hab, rfl⟩ (ih (n + 1))

theorem ofCsv_rearranged {source source' : String} {header header' : Csv.Record} {rows rows' : List Csv.Record}
    (hrecords : Csv.records source = header :: rows) (hrecords' : Csv.records source' = header' :: rows')
    (hlength : header.fields.length = header'.fields.length)
    (hnames : (header.fields.filter (· ∈ Row.fieldNames)).Nodup)
    (hrows : List.Forall₂ (Rearranged header.fields header'.fields) rows rows') :
    (ofCsv source').toOption.map (List.map Reading.specimen) =
      (ofCsv source).toOption.map (List.map Reading.specimen) := by
  rw [ofCsv, ofCsv, hrecords, hrecords']
  refine (mapM_toOption_congr ((forall₂_zipIdx hrows 1).imp ?_)).symm
  rintro ⟨record, number⟩ ⟨record', number'⟩ ⟨hrecord, hnumber⟩
  obtain rfl : number = number' := hnumber
  exact (ofRecord_rearranged hlength hnames hrecord number).symm

/-! ## Objects -/

theorem ofJson_of_reread {v w : Json} (hv : v.Readable (Json.depthLimit - 1)) (hw : w.Readable (Json.depthLimit - 1))
    (h : w.reread = v.reread) : ofJson w.render = ofJson v.render := by
  rw [ofJson, ofJson, Json.parse_render hv, Json.parse_render hw, h]

theorem ofJson_reordered {v w : Json} (h : v.Reordered w) (hv : v.Readable (Json.depthLimit - 1)) :
    ofJson w.render = ofJson v.render :=
  ofJson_of_reread hv (h.readable hv) h.reread

theorem ofJson_array_reordered {rows rows' : List Json} (h : List.Forall₂ Json.Reordered rows rows')
    (hrows : (Json.array rows).Readable (Json.depthLimit - 1)) :
    ofJson (Json.array rows').render = ofJson (Json.array rows).render := by
  obtain ⟨inner, hdepth, helements⟩ := hrows
  refine ofJson_of_reread ⟨inner, hdepth, helements⟩ ⟨inner, hdepth, Json.elementsReadable_reordered h helements⟩ ?_
  rw [Json.reread, Json.reread, Json.rereadElements_reordered h]

/-! ## Rows, tables and objects -/

/-- A row is read by setting its pairs of fields one after the other, and its other names are reported and have no
effect. It fails at the first pair that gives a length a value that no length takes, whatever follows. Else each field
has the value of its last pair. Where the names of fields differ, the order of the pairs does not matter, nor does the
order of columns in a table and of keys in JSON. -/
theorem ofFields_last :
    (∀ row : Row,
      ofFields row = (setAll {} row.declared).map (fun r => { specimen := r, dropped := row.undeclared }) ∧
      ((∃ f, ofFields row = .error f) ↔ ∃ e ∈ row, Refuses e) ∧
      (∀ f, ofFields row = .error f ↔ ∃ before field v after, row = before ++ (field.name, v) :: after ∧
        (∀ e ∈ before, ¬ Refuses e) ∧ field ≠ .species ∧ lengthOf field v = .error f) ∧
      (∀ reading, ofFields row = .ok reading →
        Field.all.mapM (fun field => (valueIn row field).map fun w => (field.name, w)) =
          .ok reading.specimen.entries ∧
        reading.warning? =
          if row.undeclared = [] then none
          else some { message := "ignoring fields not defined for Iris",
                      dropped := String.intercalate ", " row.undeclared,
                      allowed := Field.allowedNames }) ∧
      (∀ row' : Row, row'.declared = row.declared →
        (ofFields row').map Reading.specimen = (ofFields row).map Reading.specimen) ∧
      ∀ row' : Row, (row.declared.map Prod.fst).Nodup → row.Perm row' → read? row' = read? row) ∧
    (∀ (source source' : String) (header header' : Csv.Record) (rows rows' : List Csv.Record),
      Csv.records source = header :: rows → Csv.records source' = header' :: rows' →
      header.fields.length = header'.fields.length → (header.fields.filter (· ∈ Row.fieldNames)).Nodup →
      List.Forall₂ (Rearranged header.fields header'.fields) rows rows' →
      (ofCsv source').toOption.map (List.map Reading.specimen) =
        (ofCsv source).toOption.map (List.map Reading.specimen)) ∧
    (∀ v w : Json, v.Reordered w → v.Readable (Json.depthLimit - 1) → ofJson w.render = ofJson v.render) ∧
    ∀ rows rows' : List Json, List.Forall₂ Json.Reordered rows rows' →
      (Json.array rows).Readable (Json.depthLimit - 1) →
      ofJson (Json.array rows').render = ofJson (Json.array rows).render := by
  refine ⟨fun row => ⟨ofFields_eq row, ofFields_error_iff, fun f => ofFields_eq_error_iff, fun reading h => ?_,
    fun row' => ofFields_declared, fun row' => read?_perm⟩, ?_, fun v w => ofJson_reordered,
    fun rows rows' => ofJson_array_reordered⟩
  · exact ⟨entries_of_ofFields h, warning?_of_ofFields h⟩
  · intro source source' header header' rows rows' hrecords hrecords' hlength hnames hrows
    exact ofCsv_rearranged hrecords hrecords' hlength hnames hrows

/-- A row with names that are no field's between those that are, a row that writes over a value it refuses, a table and
an object. -/
theorem ofFields_last_mixed :
    (∃ reading, ofFields [("colour", .text "red"), ("sepal_length", .text " 5.5 "), ("colour", .null),
        ("species", .int 3)] = .ok reading ∧
      (∃ warning, reading.warning? = some warning ∧ warning.dropped = "colour, colour")) ∧
    read? [("species", .int 3), ("colour", .null), ("sepal_length", .text " 5.5 "), ("colour", .text "red")] =
      read? [("colour", .text "red"), ("sepal_length", .text " 5.5 "), ("colour", .null), ("species", .int 3)] ∧
    (ofFields [("sepal_length", .text " 5.5 "), ("species", .int 3)]).map Reading.specimen =
      (ofFields [("colour", .text "red"), ("sepal_length", .text " 5.5 "), ("colour", .null), ("species", .int 3)]).map
        Reading.specimen ∧
    (∃ f, ofFields [("petal_width", .text "inf"), ("petal_width", .real .zero)] = .error f) ∧
    (ofCsv "species,petal_width\na,1").toOption.map (List.map Reading.specimen) =
      (ofCsv "petal_width,species\n1,a").toOption.map (List.map Reading.specimen) ∧
    ofJson (Json.object [("species", .string "setosa"), ("petal_width", .integer 1)]).render =
      ofJson (Json.object [("petal_width", .integer 1), ("species", .string "setosa")]).render ∧
    ofJson (Json.array [.object [("species", .string "setosa"), ("petal_width", .integer 1)]]).render =
      ofJson (Json.array [.object [("petal_width", .integer 1), ("species", .string "setosa")]]).render := by
  obtain ⟨hrow, hcsv, hobject, harray⟩ := ofFields_last
  have hread : ofFields [("colour", .text "red"), ("sepal_length", .text " 5.5 "), ("colour", .null),
      ("species", .int 3)] = .ok { specimen := { sepalLength := .ofDecimal false { coefficient := 55, exponent := -1 },
                                                 species := "3" },
                                   dropped := ["colour", "colour"] } := by decide +kernel
  have hreordered : (Json.object [("petal_width", .integer 1), ("species", .string "setosa")]).Reordered
      (.object [("species", .string "setosa"), ("petal_width", .integer 1)]) :=
    ⟨_, _, rfl, rfl, List.Perm.swap _ _ _, by decide⟩
  have hreadable : ∀ inner, (Json.object [("petal_width", .integer 1), ("species", .string "setosa")]).Readable
      (inner + 1) := fun inner =>
    ⟨inner, rfl, ⟨by decide, by decide⟩, trivial, trivial⟩
  have hspecies : Csv.records "species,petal_width\na,1" =
      [⟨["species", "petal_width"], "species,petal_width\na,1".toList⟩, ⟨["a", "1"], "a,1".toList⟩] := rfl
  have hwidth : Csv.records "petal_width,species\n1,a" =
      [⟨["petal_width", "species"], "petal_width,species\n1,a".toList⟩, ⟨["1", "a"], "1,a".toList⟩] := rfl
  refine ⟨⟨_, hread, ?_⟩, ?_, ?_, ?_, ?_, ?_, ?_⟩
  · exact ⟨_, ((hrow _).2.2.2.1 _ hread).2, by decide +kernel⟩
  · exact (hrow _).2.2.2.2.2 _ (by decide) (by decide)
  · exact (hrow _).2.2.2.2.1 _ (by decide)
  · exact (hrow _).2.1.mpr ⟨_, List.mem_cons_self, .petalWidth, _, rfl, by decide,
      .notFiniteText (x := Binary64.infinity false) (by decide) (by decide +kernel) (by decide)⟩
  · exact hcsv _ _ _ _ _ _ hwidth hspecies rfl (by decide)
      (List.Forall₂.cons ⟨rfl, List.Perm.swap _ _ _⟩ List.Forall₂.nil)
  · exact hobject _ _ hreordered (hreadable 126)
  · exact harray _ _ (List.Forall₂.cons hreordered List.Forall₂.nil) ⟨126, rfl, hreadable 125, trivial⟩

end Specimen

end Herbarium
