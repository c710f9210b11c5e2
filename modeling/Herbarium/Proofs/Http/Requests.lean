import Herbarium.Http.Service
import Herbarium.Proofs.Disk.Opening
import Herbarium.Proofs.Store.Among

/-!
Requests against a database.

A service opens its database anew for every request, so all that one request leaves to the next is the disk. Requests
are answered one after the other by `serve`, each over the network there is at its time. `stored` is what a service has
stored: the specimens its store shows once the database is open.

A disk `Keeps` specimens for a service whose database opens as a file, with the table of specimens among whatever other
tables. What is run on the store of such a disk leaves a disk that keeps what the changed store carries, and one that
keeps what it kept if the run fails (`Keeps.withStore_ok`, `Keeps.withStore_error`).
-/

namespace Herbarium.Http

open Outcome

/-- A request, and the network while it is answered. -/
structure Arrival where
  request : Request
  network : Network

/-! ## Refusals -/

theorem Request.text_error_status {r : Request} {response : Response} (h : r.text = .error response) :
    response.status = 400 ∨ response.status = 413 := by
  rw [Request.text] at h
  split at h
  · cases h
    exact .inr rfl
  · split at h <;> cases h
    exact .inl rfl

theorem Request.url?_error_status {r : Request} {response : Response} (h : r.url? = .error response) :
    response.status = 400 := by
  rw [Request.url?] at h
  split at h <;> cases h
  rfl

theorem Route.path_of_sync {path : String} (h : Route.ofPath? path = some .sync) : path = "/records/sync" := by
  unfold Route.ofPath? at h
  split at h <;> first | rfl | cases h

/-- The action that a request asks for. -/
def Request.Asks (r : Request) (a : Action) : Prop :=
  ∃ route, Route.ofPath? r.path = some route ∧ route.action? (if r.method = "HEAD" then "GET" else r.method) = some a

namespace Service

variable {s : Service} {d d' : Disk} {records : List Specimen}

/-- A request is refused for its path or its method and leaves the disk as it was, or its action is carried out. -/
theorem handle_cases (s : Service) (d : Disk) (r : Request) :
    (∃ response : Response, s.handle d r = (response, d) ∧ (response.status = 404 ∨ response.status = 405)) ∨
    ∃ a, r.Asks a ∧
      (s.handle d r).1 = (if r.method = "HEAD" then (s.perform d r a).1.withoutBody else (s.perform d r a).1) ∧
      (s.handle d r).2 = (s.perform d r a).2 := by
  cases hroute : Route.ofPath? r.path with
  | none => exact .inl ⟨.notFound, by simp only [handle, hroute], .inl rfl⟩
  | some route =>
    cases haction : route.action? (if r.method = "HEAD" then "GET" else r.method) with
    | none => exact .inl ⟨.notAllowed route.allowed, by simp only [handle, hroute, haction], .inr rfl⟩
    | some a =>
      refine .inr ⟨a, ⟨route, hroute, haction⟩, ?_, ?_⟩ <;> simp only [handle, hroute, haction]

/-- The action that a method has on a path is carried out. -/
theorem handle_eq {r : Request} {method path : String} {route : Route} {a : Action} (hmethod : r.method = method)
    (hpath : r.path = path) (hhead : method ≠ "HEAD") (hroute : Route.ofPath? path = some route)
    (haction : route.action? method = some a) : s.handle d r = s.perform d r a := by
  subst hmethod hpath
  simp only [handle, hroute, if_neg hhead, haction]

theorem handle_get_all {r : Request} (hmethod : r.method = "GET") (hpath : r.path = "/records/all") :
    s.handle d r = s.select d [] :=
  handle_eq hmethod hpath (by decide) rfl rfl

/-- Answers a request over the network there is. -/
def answer (s : Service) (d : Disk) (a : Arrival) : Response × Disk :=
  { s with network := a.network }.handle d a.request

/-- Answers requests one after the other: the responses, and the disk in the end. -/
def serve (s : Service) (d : Disk) : List Arrival → List Response × Disk
  | [] => ([], d)
  | a :: rest =>
    let (response, d) := s.answer d a
    let (responses, d) := s.serve d rest
    (response :: responses, d)

/-- The store that a service works on: that of its database, opened. -/
def store? (s : Service) (d : Disk) : Except Error Store := do
  let (d, handle) ← Handle.openPath d s.database
  Store.ofDatabase (handle.read d)

/-- The specimens that are stored, oldest first. -/
def stored (s : Service) (d : Disk) : Except Error (List Specimen) := do
  (← s.store? d).select []

/-- Whether the database of a service opens as a file and has no specimens: the table of specimens is empty, or it is
missing and can be made. -/
structure StartsEmpty (s : Service) (d : Disk) : Prop where
  opens : ∃ d' place writable, Handle.openPath d s.database = .ok (d', .stored place writable) ∧
    (((Handle.stored place writable).read d').HasSpecimens [] ∨
      ((Handle.stored place writable).read d').find? Specimen.tableName = none ∧ writable = true)

/-- A disk that requests lead to, from one on which no specimens are stored. -/
def Reachable (s : Service) (d : Disk) : Prop :=
  ∃ d₀ arrivals, s.StartsEmpty d₀ ∧ d = (s.serve d₀ arrivals).2

/-- Whether the database of a service opens as a file that stores specimens, whatever other tables it has. -/
structure Keeps (s : Service) (d : Disk) (records : List Specimen) : Prop where
  opened : ∃ d' place writable store, Handle.openPath d s.database = .ok (d', .stored place writable) ∧
    Store.ofDatabase ((Handle.stored place writable).read d') = .ok store ∧ store.Carries records

/-! ## The disk between two requests -/

theorem ofDatabase_hasSpecimens {db : Database} {rows : List StoredRow} (h : db.HasSpecimens rows) :
    Store.ofDatabase db = .ok { database := db } := by
  rw [Store.ofDatabase, h.ensure, ok_bind, pure_eq_ok]

theorem StartsEmpty.keeps (h : s.StartsEmpty d) : s.Keeps d [] := by
  obtain ⟨d', place, writable, hopen, hempty | ⟨hmissing, rfl⟩⟩ := h.opens
  · exact ⟨d', place, writable, _, hopen, ofDatabase_hasSpecimens hempty, Store.carries_of_empty hempty⟩
  · have hwritable : ((Handle.stored place true).read d').writable = true := by
      rw [Handle.read]
      split <;> rfl
    obtain ⟨db, hdb, hempty⟩ := Database.ensure_missing hmissing hwritable
    refine ⟨d', place, true, { database := db }, hopen, ?_, Store.carries_of_empty hempty⟩
    rw [Store.ofDatabase, hdb, ok_bind, pure_eq_ok]

/-- A store that was written through the handle of its database is there for the next request. -/
theorem keeps_write {place : Place} {writable : Bool} {store : Store}
    (hopen : Handle.openPath d s.database = .ok (d', .stored place writable)) (hstore : store.Carries records) :
    s.Keeps ((Handle.stored place writable).write d' store.database).1 records := by
  obtain ⟨rows, hrows, hholds⟩ := hstore.table
  refine ⟨_, place, writable, { database := { store.database with writable } },
    Handle.openPath_write hopen store.database, ?_, rows, hrows, hholds⟩
  rw [Handle.read_write (Handle.openPath_ok hopen).1]
  have hwritten : Database.HasSpecimens { store.database with writable } rows := hrows
  exact ofDatabase_hasSpecimens hwritten

theorem store?_of_open {handle : Handle} (hopen : Handle.openPath d s.database = .ok (d', handle)) :
    s.store? d = Store.ofDatabase (handle.read d') := by
  rw [Service.store?, hopen]
  rfl

theorem Keeps.store? (h : s.Keeps d records) : ∃ store, s.store? d = .ok store ∧ store.Carries records := by
  obtain ⟨d', place, writable, store, hopen, hstore, hcarries⟩ := h.opened
  exact ⟨store, (store?_of_open hopen).trans hstore, hcarries⟩

theorem Keeps.stored (h : s.Keeps d records) : s.stored d = .ok records := by
  obtain ⟨store, hstore, hcarries⟩ := h.store?
  rw [Service.stored, hstore, ok_bind, hcarries.select]

/-! ## What is run on a store -/

section Run

variable {α : Type} {run : Database.Session α} {store : Store}

theorem withStore_on {handle : Handle} (hopen : Handle.openPath d s.database = .ok (d', handle))
    (hstore : Store.ofDatabase (handle.read d') = .ok store) (run : Database.Session α) :
    s.withStore d run = ((run.on store.database).1, (handle.write d' (run.on store.database).2).1) := by
  rw [withStore, hopen]
  dsimp only
  rw [Store.opened_on hstore run]

/-- What a session comes to is what it answers on the store of the database. -/
theorem withStore_fst (hstore : s.store? d = .ok store) (run : Database.Session α) :
    (s.withStore d run).1 = run.answer store.database := by
  obtain ⟨⟨d', handle⟩, hopen, hstore⟩ := bind_eq_ok.mp hstore
  rw [withStore_on hopen hstore run, Database.Session.answer]

theorem select_fst (hstore : s.store? d = .ok store) (filters : List Filter) :
    (s.select d filters).1 = respond (store.select filters) fun records => .json (recordsJson records) := by
  rw [Store.select, ← withStore_fst hstore (Store.Session.select filters)]
  rfl

/-- The next request finds the store as a session left it. -/
theorem Keeps.withStore (h : s.Keeps d records) (hstore : s.store? d = .ok store) {changed : Store}
    (hrun : (run.on store.database).2 = changed.database) {records' : List Specimen}
    (hchanged : changed.Carries records') : s.Keeps (s.withStore d run).2 records' := by
  obtain ⟨d', place, writable, _, hopen, _, _⟩ := h.opened
  rw [store?_of_open hopen] at hstore
  rw [withStore_on hopen hstore run, hrun]
  exact keeps_write hopen hchanged

theorem Keeps.withStore_reads (h : s.Keeps d records) (hrun : run.Reads) : s.Keeps (s.withStore d run).2 records := by
  obtain ⟨store, hstore, hcarries⟩ := h.store?
  exact h.withStore hstore (hrun store.database) hcarries

end Run

/-! ## A service to try -/

/-- A service with a database in the working directory and no network. -/
def offline : Service := { database := "iris.db", defaultUrl := "https://host/iris.csv", network := fun _ => none }

theorem offline_startsEmpty : offline.StartsEmpty .empty where
  opens := ⟨_, _, _, rfl, .inr ⟨rfl, rfl⟩⟩

end Service

/-- A request without query and headers, while there is no network. -/
def Arrival.plain (method path body : String) : Arrival where
  request := { method, path, query := "", headers := [], body := body.toUTF8 }
  network := fun _ => none

end Herbarium.Http
