import Herbarium.Proofs.Http.Ledger
import Herbarium.Proofs.Http.Statuses

/-!
What a query says.

Of a request for records only the values of its `where` parameters matter. They are read as filters, and the filters
select from the store of the request's database (`selection`) or delete from it (`deletion`). The response to GET is
that of the selection (`handle_selection`); that to DELETE is that of the deletion, and what is stored afterwards is what
the deletion left, or what was stored if it failed (`Keeps.handle_deletion`). Other keys, other spellings of this key, the
order among keys and the rest of the request occur in none of them.
-/

namespace Herbarium.Http

open Outcome

/-- The filters of statements. -/
def readFilters (statements : List String) : Except Error (List Filter) :=
  (Filter.parseAll statements).mapError fun f => .parse f.message

/-- A request for the records that pass certain filters, to be read or to be deleted. -/
structure Request.Filters (r : Request) (method : String) (statements : List String) : Prop where
  method : r.method = method
  path : r.path = "/records"
  wheres : Query.values "where" (Query.parse r.query) = statements

theorem Request.Filters.filters {r : Request} {method : String} {statements : List String}
    (h : r.Filters method statements) : r.filters = readFilters statements := by
  rw [Request.filters, h.wheres, readFilters]

namespace Service

/-- The specimens that pass the filters of statements. -/
def selection (s : Service) (d : Disk) (statements : List String) : Except Error (List Specimen) := do
  let filters ← readFilters statements
  (← s.store? d).select filters

/-- How many specimens pass the filters of statements, and the store without them. -/
def deletion (s : Service) (d : Disk) (statements : List String) : Except Error (Nat × Store) := do
  let filters ← readFilters statements
  (← s.store? d).delete filters

variable {s : Service} {d : Disk} {r : Request} {statements : List String} {store : Store} {records : List Specimen}

theorem handle_get_filters (h : r.Filters "GET" statements) : s.handle d r = s.perform d r .select :=
  handle_eq h.method h.path (by decide) rfl rfl

theorem handle_delete_filters (h : r.Filters "DELETE" statements) : s.handle d r = s.perform d r .delete :=
  handle_eq h.method h.path (by decide) rfl rfl

/-! ## Selecting -/

theorem selection_mendable (hstore : s.store? d = .ok store) : Mendable (s.selection d statements) := by
  rw [selection, hstore]
  exact .bind (.mapError (fun _ => rfl) _) fun filters => Store.Session.select_mendable filters store.database

theorem handle_selection (hstore : s.store? d = .ok store) (h : r.Filters "GET" statements) :
    (s.handle d r).1 = respond (s.selection d statements) fun records => .json (recordsJson records) := by
  rw [handle_get_filters h, Service.perform, h.filters, selection]
  cases readFilters statements with
  | error e => rfl
  | ok filters =>
    rw [ok_bind, hstore, ok_bind]
    exact select_fst hstore filters

/-! ## Deleting -/

theorem deletion_mendable (hstore : s.store? d = .ok store) : Mendable (s.deletion d statements) := by
  rw [deletion, hstore]
  exact .bind (.mapError (fun _ => rfl) _) fun filters =>
    Store.effect_mendable (Store.Session.delete_mendable filters) store

theorem handle_deletion (hstore : s.store? d = .ok store) (h : r.Filters "DELETE" statements) :
    (s.handle d r).1 = respond ((s.deletion d statements).map Prod.fst) fun n => .text 200 (deletedText n) := by
  rw [handle_delete_filters h, Service.perform, h.filters, deletion]
  cases readFilters statements with
  | error e => rfl
  | ok filters =>
    rw [ok_bind, hstore, ok_bind, Store.delete, Store.effect_map_fst, ← withStore_fst hstore]
    rfl

theorem Keeps.handle_deletion_ok (h : s.Keeps d records) (hr : r.Filters "DELETE" statements) {n : Nat}
    {changed : Store} (hdeletion : s.deletion d statements = .ok (n, changed)) :
    s.stored (s.handle d r).2 = changed.select [] := by
  obtain ⟨store, hstore, hcarries⟩ := h.store?
  obtain ⟨filters, hfilters, hdeletion⟩ := bind_eq_ok.mp hdeletion
  rw [hstore, ok_bind] at hdeletion
  obtain ⟨kept, -, hchanged⟩ := hcarries.delete_ok hdeletion
  have hkeeps : s.Keeps (s.handle d r).2 kept := by
    rw [handle_delete_filters hr, Service.perform, hr.filters, hfilters]
    exact h.withStore hstore (congrArg Prod.snd (Store.effect_eq_ok.mp hdeletion)) hchanged
  rw [hkeeps.stored, hchanged.select]

theorem Keeps.handle_deletion_error (h : s.Keeps d records) (hr : r.Filters "DELETE" statements) {e : Error}
    (hdeletion : s.deletion d statements = .error e) : s.stored (s.handle d r).2 = s.stored d := by
  obtain ⟨store, hstore, hcarries⟩ := h.store?
  have hkeeps : s.Keeps (s.handle d r).2 records := by
    rw [handle_delete_filters hr, Service.perform, hr.filters]
    cases hfilters : readFilters statements with
    | error f => exact h
    | ok filters =>
      rw [deletion, hfilters, ok_bind, hstore, ok_bind] at hdeletion
      have herror := Store.effect_eq_error.mp hdeletion
      exact h.withStore hstore (Store.Session.delete_isWhole filters store.database e herror) hcarries
  rw [hkeeps.stored, h.stored]

/-! ## Both -/

theorem deletedText_zero : deletedText 0 = "Deleted 0 rows" := by decide

theorem selection_nil (s : Service) (d : Disk) : s.selection d [] = s.stored d := rfl

theorem deletion_nil (hstore : s.store? d = .ok store) : s.deletion d [] = .ok (0, store) := by
  rw [deletion, hstore]
  rfl

theorem handle_all_selection (hstore : s.store? d = .ok store) (hmethod : r.method = "GET")
    (hpath : r.path = "/records/all") :
    (s.handle d r).1 = respond (s.selection d []) fun records => .json (recordsJson records) := by
  rw [handle_get_all hmethod hpath, select_fst hstore, selection_nil, Service.stored, hstore]
  rfl

/-- On every disk that requests lead to, requests for records are answered by what their `where` parameters select or
delete, with 400 and the report if this fails, and any two with the same of these parameters alike. Without them GET is
answered as for all records is, and DELETE deletes nothing. -/
theorem where_decides (hd : s.Reachable d) (statements : List String) :
    (∀ r : Request, r.Filters "GET" statements →
      (∀ records, s.selection d statements = .ok records → (s.handle d r).1 = .json (recordsJson records)) ∧
      (∀ e, s.selection d statements = .error e → (s.handle d r).1 = .text 400 e.message)) ∧
    (∀ r : Request, r.Filters "DELETE" statements →
      (∀ n changed, s.deletion d statements = .ok (n, changed) →
        (s.handle d r).1 = .text 200 (deletedText n) ∧ s.stored (s.handle d r).2 = changed.select []) ∧
      (∀ e, s.deletion d statements = .error e →
        (s.handle d r).1 = .text 400 e.message ∧ s.stored (s.handle d r).2 = s.stored d)) ∧
    (∀ r r' : Request, r.Filters "GET" statements → r'.Filters "GET" statements →
      (s.handle d r).1 = (s.handle d r').1) ∧
    (∀ r r' : Request, r.Filters "DELETE" statements → r'.Filters "DELETE" statements →
      (s.handle d r).1 = (s.handle d r').1 ∧ s.stored (s.handle d r).2 = s.stored (s.handle d r').2) ∧
    (∀ r r' : Request, r.Filters "GET" [] → r'.method = "GET" → r'.path = "/records/all" →
      (s.handle d r).1 = (s.handle d r').1) ∧
    (∀ r : Request, r.Filters "DELETE" [] →
      (s.handle d r).1 = .text 200 "Deleted 0 rows" ∧ s.stored (s.handle d r).2 = s.stored d) := by
  obtain ⟨records, hkeeps⟩ := hd.keeps
  obtain ⟨store, hstore, hcarries⟩ := hkeeps.store?
  refine ⟨?_, ?_, ?_, ?_, ?_, ?_⟩
  · intro r hr
    rw [handle_selection hstore hr]
    refine ⟨fun records hok => by rw [hok]; rfl, fun e herror => ?_⟩
    rw [herror, ← selection_mendable hstore e herror]
    rfl
  · intro r hr
    rw [handle_deletion hstore hr]
    refine ⟨fun n changed hok => ⟨by rw [hok]; rfl, hkeeps.handle_deletion_ok hr hok⟩, fun e herror => ?_⟩
    refine ⟨?_, hkeeps.handle_deletion_error hr herror⟩
    rw [herror, ← deletion_mendable hstore e herror]
    rfl
  · intro r r' hr hr'
    rw [handle_selection hstore hr, handle_selection hstore hr']
  · intro r r' hr hr'
    refine ⟨by rw [handle_deletion hstore hr, handle_deletion hstore hr'], ?_⟩
    cases hdeletion : s.deletion d statements with
    | error e => rw [hkeeps.handle_deletion_error hr hdeletion, hkeeps.handle_deletion_error hr' hdeletion]
    | ok p => rw [hkeeps.handle_deletion_ok hr hdeletion, hkeeps.handle_deletion_ok hr' hdeletion]
  · intro r r' hr hmethod hpath
    rw [handle_selection hstore hr, handle_all_selection hstore hmethod hpath]
  · intro r hr
    have hnone := deletion_nil hstore
    refine ⟨?_, ?_⟩
    · rw [handle_deletion hstore hr, hnone, ← deletedText_zero]
      rfl
    · rw [hkeeps.handle_deletion_ok hr hnone, hcarries.select, hkeeps.stored]

/-- A disk on which one of two specimens is of a species. -/
def planted : Disk :=
  (offline.serve .empty [.plain "POST" "/records" "[\x7b\"species\":\"setosa\"\x7d,{}]"]).2

theorem planted_reachable : offline.Reachable planted :=
  ⟨.empty, _, offline_startsEmpty, rfl⟩

/-- A deletion with a query and nothing else. -/
def removal (query : String) : Request :=
  { method := "DELETE", path := "/records", query, headers := [], body := .empty }

/-- The same filter among other parameters, and one under another key. -/
theorem where_decides_setosa :
    (removal "where=species%3Dsetosa").Filters "DELETE" ["species=setosa"] ∧
    (removal "Where=1&limit=0&wher%65=species=setosa&&x").Filters "DELETE" ["species=setosa"] ∧
    (removal "WHERE=species%3Dsetosa").Filters "DELETE" [] ∧
    (offline.handle planted (removal "where=species%3Dsetosa")).1 = .text 200 (deletedText 1) ∧
    (offline.handle planted (removal "Where=1&limit=0&wher%65=species=setosa&&x")).1 = .text 200 (deletedText 1) ∧
    (offline.handle planted (removal "WHERE=species%3Dsetosa")).1 = .text 200 "Deleted 0 rows" := by
  have hplain : (removal "where=species%3Dsetosa").Filters "DELETE" ["species=setosa"] := ⟨rfl, rfl, by rfl⟩
  have hmixed : (removal "Where=1&limit=0&wher%65=species=setosa&&x").Filters "DELETE" ["species=setosa"] :=
    ⟨rfl, rfl, by rfl⟩
  have hnone : (removal "WHERE=species%3Dsetosa").Filters "DELETE" [] := ⟨rfl, rfl, by rfl⟩
  have hone : (offline.handle planted (removal "where=species%3Dsetosa")).1 = .text 200 (deletedText 1) := by
    decide +kernel
  obtain ⟨-, -, -, hsame, -, -⟩ := where_decides planted_reachable ["species=setosa"]
  obtain ⟨-, -, -, -, -, hnothing⟩ := where_decides planted_reachable []
  exact ⟨hplain, hmixed, hnone, hone, (hsame _ _ hmixed hplain).1.trans hone, (hnothing _ hnone).1⟩

end Service

end Herbarium.Http
