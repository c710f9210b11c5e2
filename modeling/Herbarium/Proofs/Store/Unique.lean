import Herbarium.Proofs.Store.Runs

/-!
Inserting unique specimens again.

A unique insertion compares specimens with what is stored, and what is stored has lost the sign of its zeros. After a
unique insertion, a specimen of it is found again exactly when it has no such zero (`mem_inserted_iff`). A further
insertion of some of these specimens thus changes nothing as long as none of them has a zero with a sign, and inserts
those that have one each time anew (`Holds.insert_twice`).
-/

namespace Herbarium.Store

variable {s : Store} {records rs rs' : List Specimen}

/-- The specimens that have a zero with a sign, each at its first place. -/
def signed (rs : List Specimen) : List Specimen := (rs.filter fun r => r.HasSignedZero).eraseDups

theorem signed_eq_nil : signed rs = [] ↔ ∀ r ∈ rs, ¬ r.HasSignedZero := by
  constructor
  · intro h r hr hz
    have hmem : r ∈ signed rs := List.mem_eraseDups.mpr (List.mem_filter.mpr ⟨hr, by simpa using hz⟩)
    rw [h] at hmem
    cases hmem
  · intro h
    have hfilter : (rs.filter fun r => r.HasSignedZero) = [] :=
      List.filter_eq_nil_iff.mpr fun r hr => by simpa using h r hr
    rw [signed, hfilter, List.eraseDups_nil]

/-- What a store holds after a unique insertion has a specimen of it exactly when its zeros have no sign. -/
theorem mem_inserted_iff (hunsigned : ∀ r ∈ records, ¬ r.HasSignedZero) {r : Specimen} (hr : r ∈ rs) :
    r ∈ records ++ (fresh records rs).map Specimen.stored ↔ ¬ r.HasSignedZero := by
  constructor
  · intro h
    rcases List.mem_append.mp h with h | h
    · exact hunsigned r h
    · obtain ⟨x, _, rfl⟩ := List.mem_map.mp h
      exact Specimen.stored_not_hasSignedZero x
  · intro hz
    by_cases hmem : r ∈ records
    · exact List.mem_append_left _ hmem
    · have hfresh : r ∈ fresh records rs :=
        List.mem_eraseDups.mpr (List.mem_filter.mpr ⟨hr, by simpa using hmem⟩)
      refine List.mem_append_right _ (List.mem_map.mpr ⟨r, hfresh, ?_⟩)
      exact Specimen.stored_eq_self hz

/-- Of the specimens of a unique insertion, those with a signed zero are new again. -/
theorem fresh_inserted (hunsigned : ∀ r ∈ records, ¬ r.HasSignedZero) (hsub : ∀ r ∈ rs', r ∈ rs) :
    fresh (records ++ (fresh records rs).map Specimen.stored) rs' = signed rs' := by
  rw [fresh, signed]
  congr 1
  refine List.filter_congr fun r hr => ?_
  have hiff := mem_inserted_iff hunsigned (hsub r hr)
  by_cases hz : r.HasSignedZero <;> simp [hiff, hz]

/-- Two unique insertions, the second of specimens of the first. -/
theorem Holds.insert_twice (h : s.Holds records) (hrs : ∀ r ∈ rs, r.IsFinite) (hsub : ∀ r ∈ rs', r ∈ rs) :
    ∃ s' s'', s.insert rs true = .ok ((fresh records rs).length, s') ∧
      s'.Holds (records ++ (fresh records rs).map Specimen.stored) ∧
      s'.insert rs' true = .ok ((signed rs').length, s'') ∧
      s''.Holds (records ++ (fresh records rs).map Specimen.stored ++ (signed rs').map Specimen.stored) := by
  obtain ⟨s', hs', h'⟩ := h.insert_unique hrs
  obtain ⟨s'', hs'', h''⟩ := h'.insert_unique fun r hr => hrs r (hsub r hr)
  rw [fresh_inserted h.unsigned hsub] at hs'' h''
  exact ⟨s', s'', hs', h', hs'', h''⟩

/-- After a unique insertion, a further one of some of its specimens inserts those with a signed zero, each once. It
inserts none and leaves what the store shows exactly when none of them has such a zero. -/
theorem insert_unique_again (hs : s.Reachable) (hrs : ∀ r ∈ rs, r.Built) (hsub : ∀ r ∈ rs', r ∈ rs) :
    ∃ n m s' s'' shown, s.insert rs true = .ok (n, s') ∧ s'.select [] = .ok shown ∧
      s'.insert rs' true = .ok (m, s'') ∧ m = (signed rs').length ∧
      s''.select [] = .ok (shown ++ (signed rs').map Specimen.stored) ∧
      (m = 0 ∧ s''.select [] = .ok shown ↔ ∀ r ∈ rs', ¬ r.HasSignedZero) := by
  obtain ⟨records, h⟩ := hs.holds
  obtain ⟨s', s'', hs', h', hs'', h''⟩ := h.insert_twice (fun r hr => (hrs r hr).isFinite) hsub
  refine ⟨_, _, s', s'', _, hs', h'.select, hs'', rfl, h''.select, ?_⟩
  rw [← signed_eq_nil]
  constructor
  · intro hnone
    exact List.length_eq_zero_iff.mp hnone.1
  · intro hnil
    rw [h''.select, hnil]
    simp

/-- The blank specimen, inserted twice into the store of an empty database. -/
theorem insert_unique_again_blank :
    (ofRows []).Reachable ∧
    ∃ n m s' s'' shown, (ofRows []).insert [{}] true = .ok (n, s') ∧ s'.select [] = .ok shown ∧
      s'.insert [{}] true = .ok (m, s'') ∧ m = 0 ∧ s''.select [] = .ok shown := by
  have hs : (ofRows []).Reachable := ⟨_, [], ofDatabase_empty, by simp, rfl⟩
  have hblank : ∀ r ∈ [({} : Specimen)], r.Built := by
    intro r hr
    exact List.mem_singleton.mp hr ▸ Specimen.Built.blank
  obtain ⟨n, m, s', s'', shown, hs', hshown, hs'', _, _, hiff⟩ :=
    insert_unique_again hs hblank fun r (hr : r ∈ [({} : Specimen)]) => hr
  have hnone : ∀ r ∈ [({} : Specimen)], ¬ r.HasSignedZero := by decide
  exact ⟨hs, n, m, s', s'', shown, hs', hshown, hs'', (hiff.mpr hnone).1, (hiff.mpr hnone).2⟩

/-- Inserting specimens again is not always without effect: one whose sepal length is a zero with a sign is inserted
each time. -/
theorem insert_unique_not_idempotent :
    ¬ ∀ (s s' : Store) (rs rs' : List Specimen) (n : Nat), s.Reachable → (∀ r ∈ rs, r.Built) →
      (∀ r ∈ rs', r ∈ rs) → s.insert rs true = .ok (n, s') →
      ∃ s'', s'.insert rs' true = .ok (0, s'') ∧ s''.select [] = s'.select [] := by
  intro hclaim
  let rs : List Specimen := [{ sepalLength := Binary64.negativeZero }]
  have hbuilt : ∀ r ∈ rs, r.Built := by
    intro r hr
    exact List.mem_singleton.mp hr ▸ Specimen.built_iff.mpr (by decide)
  obtain ⟨s', s'', hs', _, hs'', _⟩ :=
    holds_empty.insert_twice (fun r hr => (hbuilt r hr).isFinite) fun r (hr : r ∈ rs) => hr
  obtain ⟨x, hx, _⟩ := hclaim _ s' rs rs _ ⟨_, [], ofDatabase_empty, by simp, rfl⟩ hbuilt (fun r hr => hr) hs'
  rw [hs''] at hx
  simp only [Except.ok.injEq, Prod.mk.injEq] at hx
  exact absurd hx.1 (by decide)

end Herbarium.Store
