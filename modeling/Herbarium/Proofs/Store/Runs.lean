import Herbarium.Proofs.Store.Records

/-!
Runs of a store.

A run performs commands one after the other on the store of an empty database, and what a command that fails has changed
stays changed. One command takes a store that holds specimens to one that holds specimens (`Holds.after`), and so does a run of
any length (`Holds.run`). What reading the store shows after a run is therefore one list of specimens, and the next
operation is the operation of that name on the list.
-/

namespace Herbarium.Store

variable {s : Store} {records : List Specimen}

/-- An operation that changes a store. -/
inductive Command where
  | insert (rs : List Specimen) (unique : Bool)
  | delete (filters : List Filter)
  | deleteAll

/-- Whether all specimens of a command are built. -/
def Command.Built : Command → Prop
  | insert rs _ => ∀ r ∈ rs, r.Built
  | delete _ => True
  | deleteAll => True

/-- The steps of a command. -/
def Command.session : Command → Database.Session Nat
  | insert rs unique => Session.insert rs unique
  | delete filters => Session.delete filters
  | deleteAll => Session.deleteAll

/-- The store after a command, whether it fails or not. -/
def after (s : Store) (c : Command) : Store := { database := (c.session.on s.database).2 }

/-- The store after commands. -/
def run (s : Store) (commands : List Command) : Store := commands.foldl after s

/-- A store that a run leads to. -/
def Reachable (s : Store) : Prop :=
  ∃ s₀ commands, ofDatabase .empty = .ok s₀ ∧ (∀ c ∈ commands, Command.Built c) ∧ s = s₀.run commands

/-- What reading a store shows: the specimens themselves, their number and their statistics. -/
structure Shows (s : Store) (records : List Specimen) : Prop where
  select : s.select [] = .ok records
  count : s.count = .ok records.length
  summary : s.summary = .ok (Summary.ofRecords records)

theorem Holds.shows (h : s.Holds records) : s.Shows records where
  select := h.select
  count := h.count
  summary := h.summary

/-! ## One command -/

theorem after_ok {c : Command} {n : Nat} {s' : Store} (h : s.effect c.session = .ok (n, s')) : s.after c = s' := by
  rw [after, effect_eq_ok.mp h]

/-- A deletion is one statement, so it changes nothing where it fails. -/
theorem after_delete_error {filters : List Filter} {e : Error} (h : s.delete filters = .error e) :
    s.after (.delete filters) = s := by
  rw [after, Command.session, Session.delete_isWhole filters s.database e (effect_eq_error.mp h)]

/-- A command keeps a store one that holds specimens. -/
theorem Holds.after (h : s.Holds records) {c : Command} (hc : c.Built) :
    ∃ records', (s.after c).Holds records' := by
  cases c with
  | insert rs unique =>
    have hfinite : ∀ r ∈ rs, r.IsFinite := fun r hr => (hc r hr).isFinite
    cases unique with
    | false =>
      obtain ⟨s', hs', h'⟩ := h.insert_all hfinite
      exact ⟨_, (after_ok (c := .insert rs false) hs').symm ▸ h'⟩
    | true =>
      obtain ⟨s', hs', h'⟩ := h.insert_unique hfinite
      exact ⟨_, (after_ok (c := .insert rs true) hs').symm ▸ h'⟩
  | delete filters =>
    -- the only command that may fail: filters need not compile, nor name columns of the table
    cases hs' : s.delete filters with
    | error e => exact ⟨records, (after_delete_error hs').symm ▸ h⟩
    | ok p =>
      obtain ⟨kept, _, h'⟩ := h.delete hs'
      exact ⟨kept, (after_ok (c := .delete filters) hs').symm ▸ h'⟩
  | deleteAll =>
    obtain ⟨s', hs', h'⟩ := h.deleteAll
    exact ⟨[], (after_ok (c := .deleteAll) hs').symm ▸ h'⟩

/-! ## Runs -/

theorem Holds.run (h : s.Holds records) {commands : List Command} (hc : ∀ c ∈ commands, c.Built) :
    ∃ records', (s.run commands).Holds records' := by
  induction commands generalizing s records with
  | nil => exact ⟨records, h⟩
  | cons c commands ih =>
    obtain ⟨records', h'⟩ := h.after (hc c List.mem_cons_self)
    exact ih h' fun c' hc' => hc c' (List.mem_cons_of_mem c hc')

theorem Reachable.holds (h : s.Reachable) : ∃ records, s.Holds records := by
  obtain ⟨s₀, commands, hs₀, hc, rfl⟩ := h
  obtain rfl : ofRows [] = s₀ := by
    rw [ofDatabase_empty] at hs₀
    injection hs₀
  exact holds_empty.run hc

/-- After any run on the store of an empty database, reading shows one list of specimens without a zero's sign, and no
reading fails. The next insertion of all specimens, or of the unique ones, appends them to the list as they are stored,
and the next deletion of all specimens empties it; each counts what it changed. -/
theorem run_refines (commands : List Command) (hc : ∀ c ∈ commands, c.Built) :
    ∃ s₀ records, ofDatabase .empty = .ok s₀ ∧ (s₀.run commands).Shows records ∧
      (∀ r ∈ records, r.Built ∧ ¬ r.HasSignedZero) ∧
      (∀ rs : List Specimen, (∀ r ∈ rs, r.Built) →
        (∃ s', (s₀.run commands).insert rs false = .ok (rs.length, s') ∧
          s'.Shows (records ++ rs.map Specimen.stored)) ∧
        (∃ s', (s₀.run commands).insert rs true = .ok ((fresh records rs).length, s') ∧
          s'.Shows (records ++ (fresh records rs).map Specimen.stored))) ∧
      ∃ s', (s₀.run commands).deleteAll = .ok (records.length, s') ∧ s'.Shows [] := by
  obtain ⟨records, h⟩ := holds_empty.run hc
  refine ⟨ofRows [], records, ofDatabase_empty, h.shows, ?_, ?_, ?_⟩
  · intro r hr
    exact ⟨Specimen.built_iff.mpr (h.finite r hr), h.unsigned r hr⟩
  · intro rs hrs
    have hfinite : ∀ r ∈ rs, r.IsFinite := fun r hr => (hrs r hr).isFinite
    obtain ⟨s₁, hs₁, h₁⟩ := h.insert_all hfinite
    obtain ⟨s₂, hs₂, h₂⟩ := h.insert_unique hfinite
    exact ⟨⟨s₁, hs₁, h₁.shows⟩, ⟨s₂, hs₂, h₂.shows⟩⟩
  · obtain ⟨s', hs', h'⟩ := h.deleteAll
    exact ⟨s', hs', h'.shows⟩

/-- A run that stores a specimen twice and takes all away. -/
theorem run_refines_blank :
    (∀ c ∈ [Command.insert [{}, {}] false, .deleteAll], c.Built) ∧
    ∃ s₀ records, ofDatabase .empty = .ok s₀ ∧ (s₀.run [.insert [{}, {}] false, .deleteAll]).Shows records ∧
      ∃ s', (s₀.run [.insert [{}, {}] false, .deleteAll]).insert [{}] true =
          .ok ((fresh records [{}]).length, s') ∧
        s'.Shows (records ++ (fresh records [{}]).map Specimen.stored) := by
  have hc : ∀ c ∈ [Command.insert [{}, {}] false, .deleteAll], c.Built := by
    intro c h
    rcases List.mem_cons.mp h with rfl | h
    · intro r hr
      have hblank : r = {} := by simpa using hr
      exact hblank ▸ Specimen.Built.blank
    · obtain rfl := List.mem_singleton.mp h
      trivial
  obtain ⟨s₀, records, hs₀, hshows, _, hinsert, _⟩ := run_refines _ hc
  have hblank : ∀ r ∈ [({} : Specimen)], r.Built := by
    intro r hr
    exact List.mem_singleton.mp hr ▸ Specimen.Built.blank
  exact ⟨hc, s₀, records, hs₀, hshows, (hinsert [{}] hblank).2⟩

end Herbarium.Store
