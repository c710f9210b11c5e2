import Herbarium.Proofs.Filter.Parsing
import Herbarium.Proofs.Http.Requests

/-!
No request is the service's failure.

Errors with a status of 500 come from opening a database, from downloads and from a schema that cannot be created.
Everything else that may fail is `Mendable`: it fails only in ways that the client can mend. Whatever the database
holds, this is so of all sessions on its store (`IsMendable`), as the schema of specimens can be created. The database that opened
once opens for every later request (`Opens`), so without downloads no request is answered with a failure of the service
(`answers_below_500`).

What could break a request off altogether are a cut inside a character and the median of a column; neither comes about.
-/

namespace Herbarium

open Outcome

/-- `x` fails only in ways that the client can mend. -/
def Mendable {α : Type} (x : Except Error α) : Prop :=
  ∀ e, x = .error e → e.status = 400

namespace Mendable

variable {ε α β : Type}

theorem ok (a : α) : Mendable (.ok a) := by
  intro e h
  cases h

theorem error {e : Error} (he : e.status = 400) : Mendable (.error e : Except Error α) := by
  intro e' h
  cases h
  exact he

theorem bind {x : Except Error α} {f : α → Except Error β} (hx : Mendable x) (hf : ∀ a, Mendable (f a)) :
    Mendable (x >>= f) := by
  cases x with
  | ok a => exact hf a
  | error e => exact error (hx e rfl)

theorem map {x : Except Error α} (hx : Mendable x) (f : α → β) : Mendable (x.map f) := by
  cases x with
  | ok a => exact ok (f a)
  | error e => exact error (hx e rfl)

theorem mapError {f : ε → Error} (hf : ∀ fault, (f fault).status = 400) (x : Except ε α) :
    Mendable (x.mapError f) := by
  cases x with
  | ok a => exact ok a
  | error fault => exact error (hf fault)

theorem mapM {f : α → Except Error β} (hf : ∀ a, Mendable (f a)) : ∀ as : List α, Mendable (as.mapM f)
  | [] => ok []
  | a :: as => by
    rw [List.mapM_cons]
    exact bind (hf a) fun b => bind (mapM hf as) fun bs => ok (b :: bs)

end Mendable

/-! ## What would break off -/

theorem Filter.parse_ne_offBoundary (statement : String) (offset : Nat) (text : String) :
    parse statement ≠ .error (.offBoundary offset text) := by
  intro h
  rcases parse_eq_error_iff.mp h with ⟨hfault, -⟩ | ⟨before, op, after, -, ⟨hfault, -⟩ | ⟨hfault, -⟩⟩ <;> cases hfault

theorem Summary.median_of_ne_nil {sorted : List Binary64} (h : sorted ≠ []) :
    ∃ middle, median sorted = some middle := by
  have hlength := List.length_pos_iff.mpr h
  have hupper : sorted.length / 2 < sorted.length := by omega
  have hlower : sorted.length - 1 - sorted.length / 2 < sorted.length := by omega
  rw [median, List.getElem?_eq_getElem hupper, List.getElem?_eq_getElem hlower]
  exact ⟨_, rfl⟩

theorem Json.render_real {x : Binary64} (h : x.isFinite = false) : (real x).render = "null" := by
  have hchars : (real x).chars = (realText x).toList := rfl
  have hnull : realText x = "null" := if_neg (by simp [h])
  rw [render, hchars, hnull, String.ofList_toList]

/-! ## The store -/

namespace Specimen

theorem Fault.toError_status (f : Fault) : f.toError.status = 400 := by
  cases f <;> rfl

theorem LoadFault.toError_status (f : LoadFault) (source : String) : (f.toError source).status = 400 := by
  cases f with
  | row fault => exact fault.toError_status
  | csv | json | notObject => rfl

end Specimen

namespace Database

theorem compileFilters_mendable (filters : List Filter) : Mendable (compileFilters filters) :=
  .mapError (fun _ => rfl) _

namespace Session

variable {α β : Type} {s : Session α}

/-- A session that fails only in ways that the client can mend, whatever the database holds. -/
def IsMendable (s : Session α) : Prop := ∀ db, Mendable (s.answer db)

namespace IsMendable

theorem pure (a : α) : (Pure.pure a : Session α).IsMendable := fun _ => .ok a

theorem ofExcept {x : Except Error α} (hx : Mendable x) : (MonadExcept.ofExcept x : Session α).IsMendable :=
  fun db => by rwa [answer_ofExcept]

theorem bind {f : α → Session β} (hs : s.IsMendable) (hf : ∀ a, (f a).IsMendable) : (s >>= f).IsMendable := by
  intro db
  cases h : s.on db with
  | mk outcome after =>
    rw [answer]
    cases outcome with
    | ok a =>
      rw [on_bind_ok h]
      exact hf a after
    | error e =>
      rw [on_bind_error h]
      exact .error (hs db e (congrArg Prod.fst h))

theorem query {statement : Database → Except Error α} (h : ∀ db, Mendable (statement db)) :
    (Session.query statement).IsMendable := fun db => by rw [answer_query]; exact h db

theorem execute {statement : Database → Except Error (α × Database)} (h : ∀ db, Mendable (statement db)) :
    (Session.execute statement).IsMendable := by
  intro db
  rw [← effect_map_fst, effect_execute]
  exact (h db).map Prod.fst

end IsMendable

variable (table : String)

/-- The one check whose failure would be that of the service is passed. -/
theorem ensure_mendable : (ensure Specimen.schema).IsMendable := by
  refine .bind (.ofExcept ?_) fun _ => .execute fun _ => .bind (.mapError (fun _ => rfl) _) fun _ => .ok _
  rw [check_schema]
  exact .ok ()

theorem insertRow_mendable (row : Row) : (insertRow table row).IsMendable :=
  .execute fun _ => .bind (.mapError (fun _ => rfl) _) fun _ => .ok _

theorem schemaOf_mendable : (schemaOf table).IsMendable := by
  refine .bind (.query fun _ => .ok _) fun s => ?_
  cases s with
  | none => exact .ofExcept (.error rfl)
  | some s => exact .pure s

theorem scanClause_mendable (clause : Option Clause) : (scanClause table clause).IsMendable :=
  .bind (schemaOf_mendable table) fun _ => .bind (.query fun _ => .mapError (fun _ => rfl) _) fun _ => .pure _

theorem scan_mendable (filters : List Filter) : (scan table filters).IsMendable :=
  .bind (.ofExcept (compileFilters_mendable filters)) fun clause => scanClause_mendable table clause

theorem deleteClause_mendable (clause : Option Clause) : (deleteClause table clause).IsMendable :=
  .execute fun _ => .mapError (fun _ => rfl) _

theorem delete_mendable (filters : List Filter) : (delete table filters).IsMendable := by
  refine .bind (.ofExcept (compileFilters_mendable filters)) fun clause => ?_
  cases clause with
  | none => exact .pure 0
  | some clause => exact deleteClause_mendable table (some clause)

end Session

end Database

namespace Store

namespace Session

open Database.Session (IsMendable)

theorem opened_mendable {α : Type} {run : Database.Session α} (h : run.IsMendable) : (opened run).IsMendable :=
  .bind Database.Session.ensure_mendable fun _ => h

theorem select_mendable (filters : List Filter) : (select filters).IsMendable :=
  .bind (Database.Session.scan_mendable Specimen.tableName filters) fun _ =>
    .ofExcept (.mapM (fun _ => .mapError Specimen.Fault.toError_status _) _)

theorem insertAll_mendable : ∀ (records : List Specimen) (count : Nat), (insertAll count records).IsMendable
  | [], count => .pure count
  | r :: rest, count =>
    .bind (Database.Session.insertRow_mendable Specimen.tableName r.entries) fun n =>
      insertAll_mendable rest (count + n)

theorem insert_mendable (records : List Specimen) (unique : Bool) : (insert records unique).IsMendable := by
  cases unique with
  | false => exact insertAll_mendable records 0
  | true => exact .bind (select_mendable []) fun seen => insertAll_mendable (unseen seen records) 0

theorem delete_mendable (filters : List Filter) : (delete filters).IsMendable :=
  Database.Session.delete_mendable Specimen.tableName filters

theorem deleteAll_mendable : deleteAll.IsMendable := Database.Session.deleteClause_mendable Specimen.tableName none

theorem summary_mendable : summary.IsMendable := .bind (select_mendable []) fun _ => .pure _

end Session

theorem effect_mendable {session : Database.Session Nat} (h : session.IsMendable) (s : Store) :
    Mendable (s.effect session) :=
  ((h s.database).map _).map _

end Store

namespace Http

theorem tableRecords_mendable (source : String) : Mendable (tableRecords source) :=
  .mapError (fun f => f.toError_status source) _

theorem Request.specimens_mendable (r : Request) (body : String) : Mendable (r.specimens body) := by
  rw [Request.specimens]
  split
  · exact tableRecords_mendable body
  · exact .mapError (fun f => f.toError_status body) _

theorem Request.filters_mendable (r : Request) : Mendable r.filters :=
  .mapError (fun _ => rfl) _

theorem ofError_status {α : Type} {x : Except Error α} {e : Error} (hx : Mendable x) (h : x = .error e) :
    (Response.ofError e).status < 500 := by
  show e.status < 500
  rw [hx e h]
  decide

theorem respond_status {α : Type} {x : Except Error α} {encode : α → Response} (hx : Mendable x)
    (hencode : ∀ a, (encode a).status = 200) : (respond x encode).status < 500 := by
  cases x with
  | ok a =>
    show (encode a).status < 500
    rw [hencode a]
    decide
  | error e => exact ofError_status hx rfl

theorem Request.Asks.ne_sync {r : Request} {a : Action} (h : r.Asks a) (hpath : r.path ≠ "/records/sync") :
    a ≠ .sync := by
  rintro rfl
  obtain ⟨route, hroute, haction⟩ := h
  have hsync : route = .sync := by
    unfold Route.action? at haction
    split at haction <;> first | rfl | cases haction
  exact hpath (Route.path_of_sync (hsync ▸ hroute))

namespace Service

variable {s : Service} {d : Disk}

/-! ## One request -/

/-- Whether the database of a service opens. -/
structure Opens (s : Service) (d : Disk) : Prop where
  opened : ∃ d' handle, Handle.openPath d s.database = .ok (d', handle)

/-- Whether a request is answered, and not with a failure of the service, and the database still opens. -/
structure Serves (s : Service) (outcome : Response × Disk) : Prop where
  status : outcome.1.status < 500
  opens : s.Opens outcome.2

theorem Opens.withStore (h : s.Opens d) {α : Type} {run : Database.Session α} (hrun : run.IsMendable) :
    Mendable (s.withStore d run).1 ∧ s.Opens (s.withStore d run).2 := by
  obtain ⟨d', handle, hopen⟩ := h.opened
  rw [Service.withStore, hopen]
  exact ⟨Store.Session.opened_mendable hrun (handle.read d'), _, handle, Handle.openPath_write hopen _⟩

theorem Opens.select (h : s.Opens d) (filters : List Filter) : s.Serves (s.select d filters) := by
  obtain ⟨hresult, hopens⟩ := h.withStore (Store.Session.select_mendable filters)
  exact ⟨respond_status hresult fun _ => rfl, hopens⟩

theorem Opens.insert (h : s.Opens d) (records : List Specimen) (unique : Bool) :
    s.Serves (s.insert d records unique) := by
  obtain ⟨hresult, hopens⟩ := h.withStore (Store.Session.insert_mendable records unique)
  exact ⟨respond_status hresult fun _ => rfl, hopens⟩

theorem Opens.deleteBy (h : s.Opens d) {run : Database.Session Nat} (hrun : run.IsMendable) :
    s.Serves (s.deleteBy d run) := by
  obtain ⟨hresult, hopens⟩ := h.withStore hrun
  exact ⟨respond_status hresult fun _ => rfl, hopens⟩

theorem Opens.insertBody (h : s.Opens d) (r : Request) (unique : Bool) : s.Serves (s.insertBody d r unique) := by
  rw [Service.insertBody]
  split
  next response hresponse =>
    have hstatus := Request.text_error_status hresponse
    exact ⟨show response.status < 500 by omega, h⟩
  next body _ =>
    split
    next e he => exact ⟨ofError_status (r.specimens_mendable body) he, h⟩
    next records _ => exact h.insert records unique

/-- Every action but a download. -/
theorem Opens.perform (h : s.Opens d) (r : Request) {a : Action} (ha : a ≠ .sync) : s.Serves (s.perform d r a) := by
  cases a with
  | home => exact ⟨(by decide : 200 < 500), h⟩
  | select =>
    rw [Service.perform]
    split
    next e he => exact ⟨ofError_status r.filters_mendable he, h⟩
    next filters _ => exact h.select filters
  | selectAll => exact h.select []
  | insert unique => exact h.insertBody r unique
  | delete =>
    rw [Service.perform]
    split
    next e he => exact ⟨ofError_status r.filters_mendable he, h⟩
    next filters _ => exact h.deleteBy (Store.Session.delete_mendable filters)
  | deleteAll => exact h.deleteBy Store.Session.deleteAll_mendable
  | sync => exact absurd rfl ha
  | summary =>
    obtain ⟨hresult, hopens⟩ := h.withStore Store.Session.summary_mendable
    exact ⟨respond_status hresult fun _ => rfl, hopens⟩

theorem Opens.handle (h : s.Opens d) {r : Request} (hpath : r.path ≠ "/records/sync") : s.Serves (s.handle d r) := by
  obtain ⟨response, hhandle, hstatus⟩ | ⟨a, hasks, hfst, hsnd⟩ := s.handle_cases d r
  · rw [hhandle]
    exact ⟨show response.status < 500 by omega, h⟩
  · obtain ⟨hstatus, hopens⟩ := h.perform r (hasks.ne_sync hpath)
    refine ⟨?_, hsnd ▸ hopens⟩
    rw [hfst]
    split <;> exact hstatus

/-! ## Runs -/

theorem Opens.onNetwork (h : s.Opens d) (network : Network) : { s with network }.Opens d := ⟨h.opened⟩

theorem Opens.serve (h : s.Opens d) (arrivals : List Arrival)
    (hpath : ∀ a ∈ arrivals, a.request.path ≠ "/records/sync") :
    ∀ response ∈ (s.serve d arrivals).1, response.status < 500 := by
  induction arrivals generalizing d with
  | nil =>
    intro response hresponse
    cases hresponse
  | cons a rest ih =>
    intro response hresponse
    obtain ⟨hstatus, hopens⟩ := (h.onNetwork a.network).handle (hpath a List.mem_cons_self)
    rcases List.mem_cons.mp hresponse with rfl | hrest
    · exact hstatus
    · exact ih (hopens.onNetwork s.network) (fun b hb => hpath b (List.mem_cons_of_mem a hb)) response hrest

theorem serve_length : ∀ (arrivals : List Arrival) (d : Disk), (s.serve d arrivals).1.length = arrivals.length
  | [], _ => rfl
  | a :: rest, d => congrArg (· + 1) (serve_length rest (s.answer d a).2)

/-- Wherever the database of a service opens, requests other than for downloads are all answered, and with no status of
500 or more, whatever the database holds. On the way no statement is cut inside a character, only the empty list has no
median, and what is not finite is still written as JSON. -/
theorem answers_below_500 (h : s.Opens d) (arrivals : List Arrival)
    (hpath : ∀ a ∈ arrivals, a.request.path ≠ "/records/sync") :
    (s.serve d arrivals).1.length = arrivals.length ∧
    (∀ response ∈ (s.serve d arrivals).1, response.status < 500) ∧
    (∀ statement offset text, Filter.parse statement ≠ .error (.offBoundary offset text)) ∧
    (∀ sorted, sorted ≠ [] → ∃ middle, Summary.median sorted = some middle) ∧
    (∀ x : Binary64, x.isFinite = false → (Json.real x).render = "null") :=
  ⟨serve_length arrivals d, h.serve arrivals hpath, Filter.parse_ne_offBoundary, fun _ => Summary.median_of_ne_nil,
    fun _ => Json.render_real⟩

/-- A malformed body, a filter whose column is none, a method that is not served, a path that is not, and a summary. -/
def mishaps : List Arrival :=
  [.plain "POST" "/records" "[{}",
    { request := { method := "DELETE", path := "/records", query := "where=5+0%3D1", headers := [], body := .empty }
      network := fun _ => none },
    .plain "PATCH" "/records" "", .plain "GET" "/record" "", .plain "GET" "/records/summary" ""]

theorem answers_below_500_mishaps :
    offline.Opens .empty ∧ (∀ a ∈ mishaps, a.request.path ≠ "/records/sync") ∧
    (offline.serve .empty mishaps).1.map Response.status = [400, 400, 405, 404, 200] ∧
    (∀ response ∈ (offline.serve .empty mishaps).1, response.status < 500) := by
  have hopens : offline.Opens .empty := ⟨_, _, rfl⟩
  have hpath : ∀ a ∈ mishaps, a.request.path ≠ "/records/sync" := by decide
  exact ⟨hopens, hpath, by decide +kernel, (answers_below_500 hopens mishaps hpath).2.1⟩

end Service

end Http

end Herbarium
