import Mathlib.Algebra.GroupWithZero.Nat
import Std.Data.String.ToNat
import Herbarium.Proofs.Http.Requests
import Herbarium.Proofs.Specimen.Export
import Herbarium.Proofs.Specimen.Loading

/-!
What responses report.

A response that reports an insertion or a deletion names the number of specimens, and these numbers are the whole
account of what is stored. One action of a service on a disk that keeps specimens either fails and changes nothing, or
it changes their number by just what its response reports (`Keeps.perform`); actions that read change nothing
(`Keeps.perform_reads`). From this follows what a run of any length comes to (`Keeps.serve`). The response that lists all
specimens parses as an array of as many elements (`Keeps.parse_all`).

HEAD is answered as GET is, but its response does not say what was done.
-/

namespace Herbarium.Http

open Outcome

/-- The number that a text shows between two others. -/
def numberBetween? (before after text : String) : Option Nat := do
  let rest ← text.toList.dropPrefix? before.toList
  let digits ← rest.dropSuffix? after.toList
  (String.ofList digits).toNat?

/-- The number that a response of success shows between two texts. -/
def Response.reported (before after : String) (r : Response) : Nat :=
  if r.status = 200 then (numberBetween? before after r.body).getD 0 else 0

/-- How many specimens a response reports as inserted. -/
def Response.inserted (r : Response) : Nat := r.reported "Inserted " " rows."

/-- How many specimens a response reports as deleted. -/
def Response.deleted (r : Response) : Nat := r.reported "Deleted " " rows"

/-- What was stored before a response accounts for what is stored after it: nothing changed unless the response is one
of success, and then by as much as it reports. -/
structure Accounts (before : List Specimen) (response : Response) (after : List Specimen) : Prop where
  kept : response.status ≠ 200 → after = before
  counted : after.length + response.deleted = before.length + response.inserted

/-! ## Reading reports -/

theorem numberBetween?_append (before after : String) (n : Nat) :
    numberBetween? before after (before ++ n.repr ++ after) = some n := by
  have htext : (before ++ n.repr ++ after).toList.dropPrefix? before.toList =
      some (n.repr.toList ++ after.toList) := by
    rw [String.toList_append, String.toList_append, List.append_assoc]
    exact List.dropPrefix?_eq_some_iff.mpr ⟨before.toList, rfl, BEq.rfl⟩
  have hrest : (n.repr.toList ++ after.toList).dropSuffix? after.toList = some n.repr.toList :=
    List.dropSuffix?_eq_some_iff.mpr ⟨after.toList, rfl, BEq.rfl⟩
  simp only [numberBetween?, htext, hrest, Option.bind_eq_bind, Option.bind_some, String.ofList_toList,
    Nat.toNat?_repr]

/-- A text that starts otherwise shows no number. -/
theorem numberBetween?_eq_none {before after text : String} {c : Char} {cs : List Char}
    (hbefore : before.toList = c :: cs) (h : text.toList.head? ≠ some c) : numberBetween? before after text = none := by
  have hprefix : text.toList.dropPrefix? before.toList = none := by
    refine Option.eq_none_iff_forall_not_mem.mpr fun rest hrest => h ?_
    obtain ⟨front, htext, hfront⟩ := List.dropPrefix?_eq_some_iff.mp hrest
    rw [htext, eq_of_beq hfront, hbefore]
    rfl
  rw [numberBetween?, hprefix]
  rfl

theorem head?_append {s t : String} {c : Char} (h : s.toList.head? = some c) : (s ++ t).toList.head? = some c := by
  rw [String.toList_append, List.head?_append, h, Option.some_or]

theorem insertedText_head (n : Nat) : (insertedText n).toList.head? = some 'I' :=
  head?_append (s := "Inserted " ++ n.repr) (head?_append rfl)

theorem deletedText_head (n : Nat) : (deletedText n).toList.head? = some 'D' :=
  head?_append (s := "Deleted " ++ n.repr) (head?_append rfl)

theorem render_array_head (elements : List Json) : (Json.array elements).render.toList.head? = some '[' := by
  rw [Json.render, String.toList_ofList]
  rfl

theorem render_object_head (members : List (String × Json)) :
    (Json.object members).render.toList.head? = some '\x7b' := by
  rw [Json.render, String.toList_ofList]
  rfl

theorem homePage_head : homePage.toList.head? = some '<' := by
  unfold homePage
  iterate 7 refine head?_append ?_
  rfl

namespace Response

theorem reported_append (before after : String) (n : Nat) :
    (text 200 (before ++ n.repr ++ after)).reported before after = n := by
  have hstatus : (text 200 (before ++ n.repr ++ after)).status = 200 := rfl
  rw [reported, if_pos hstatus, text, numberBetween?_append, Option.getD_some]

theorem reported_of_status {before after : String} {r : Response} (h : r.status ≠ 200) :
    r.reported before after = 0 := if_neg h

theorem reported_of_head {before after : String} {c : Char} {cs : List Char} {r : Response}
    (hbefore : before.toList = c :: cs) (h : r.body.toList.head? ≠ some c) : r.reported before after = 0 := by
  rw [reported, numberBetween?_eq_none hbefore h]
  split <;> rfl

theorem inserted_insertedText (n : Nat) : (text 200 (insertedText n)).inserted = n :=
  reported_append "Inserted " " rows." n

theorem deleted_deletedText (n : Nat) : (text 200 (deletedText n)).deleted = n :=
  reported_append "Deleted " " rows" n

theorem deleted_insertedText (n : Nat) : (text 200 (insertedText n)).deleted = 0 :=
  reported_of_head (c := 'D') rfl (by simp [text, insertedText_head])

theorem inserted_deletedText (n : Nat) : (text 200 (deletedText n)).inserted = 0 :=
  reported_of_head (c := 'I') rfl (by simp [text, deletedText_head])

/-- Whether a response reports no change. -/
structure IsSilent (r : Response) : Prop where
  inserted : r.inserted = 0
  deleted : r.deleted = 0

theorem isSilent_of_status {r : Response} (h : r.status ≠ 200) : r.IsSilent where
  inserted := reported_of_status h
  deleted := reported_of_status h

theorem isSilent_of_head {r : Response} {c : Char} (h : r.body.toList.head? = some c) (hi : c ≠ 'I') (hd : c ≠ 'D') :
    r.IsSilent where
  inserted := reported_of_head (c := 'I') rfl (by simpa [h] using hi)
  deleted := reported_of_head (c := 'D') rfl (by simpa [h] using hd)

theorem ofError_status_ne (e : Error) : (ofError e).status ≠ 200 := by
  cases e <;> simp [ofError, text, Error.status]

theorem isSilent_records (records : List Specimen) : (json (recordsJson records)).IsSilent :=
  isSilent_of_head (render_array_head _) (by decide) (by decide)

theorem isSilent_summary (summary : Summary) : (json summary.toJson.render).IsSilent :=
  isSilent_of_head (render_object_head _) (by decide) (by decide)

theorem isSilent_home : (html homePage).IsSilent :=
  isSilent_of_head homePage_head (by decide) (by decide)

end Response

theorem accounts_unchanged {records : List Specimen} {response : Response} (h : response.IsSilent) :
    Accounts records response records where
  kept := fun _ => rfl
  counted := by rw [h.inserted, h.deleted]

theorem accounts_error (records : List Specimen) (e : Error) : Accounts records (.ofError e) records :=
  accounts_unchanged (Response.isSilent_of_status (Response.ofError_status_ne e))

theorem respond_isSilent {α : Type} {x : Except Error α} {encode : α → Response} (h : ∀ a, (encode a).IsSilent) :
    (respond x encode).IsSilent := by
  cases x with
  | ok a => exact h a
  | error e => exact Response.isSilent_of_status (Response.ofError_status_ne e)

/-! ## Specimens of a request -/

theorem tableRecords_isFinite {source : String} {rs : List Specimen} (h : tableRecords source = .ok rs) :
    ∀ r ∈ rs, r.IsFinite := by
  obtain ⟨readings, hreadings, rfl⟩ := map_eq_ok (mapError_eq_ok.mp h)
  intro r hr
  obtain ⟨reading, hreading, rfl⟩ := List.mem_map.mp hr
  exact (Specimen.ofCsv_built hreadings reading hreading).isFinite

theorem Request.specimens_isFinite {r : Request} {body : String} {rs : List Specimen} (h : r.specimens body = .ok rs) :
    ∀ x ∈ rs, x.IsFinite := by
  rw [Request.specimens] at h
  split at h
  · exact tableRecords_isFinite h
  · obtain ⟨readings, hreadings, rfl⟩ := map_eq_ok (mapError_eq_ok.mp h)
    intro x hx
    obtain ⟨reading, hreading, rfl⟩ := List.mem_map.mp hx
    exact (Specimen.ofJson_built hreadings reading hreading).isFinite

/-! ## Actions that read -/

/-- Whether an action changes nothing of what is stored. -/
def Action.Reads : Action → Prop
  | .home | .select | .selectAll | .summary => True
  | .insert _ | .delete | .deleteAll | .sync => False

theorem Action.reads_of_get {route : Route} {a : Action} (hroute : route ≠ .sync) (h : route.action? "GET" = some a) :
    a.Reads := by
  cases route with
  | sync => exact absurd rfl hroute
  | home | records | allRecords | summary =>
    cases h
    trivial
  | uniqueRecords => cases h

namespace Service

variable {s : Service} {d : Disk} {records : List Specimen}

/-- Whether an outcome accounts for what is stored after it, when certain specimens were stored before it. -/
def Settles (s : Service) (records : List Specimen) (outcome : Response × Disk) : Prop :=
  ∃ records', s.Keeps outcome.2 records' ∧ Accounts records outcome.1 records'

theorem Keeps.settles {outcome : Response × Disk} (h : s.Keeps outcome.2 records) (hsilent : outcome.1.IsSilent) :
    s.Settles records outcome :=
  ⟨records, h, accounts_unchanged hsilent⟩

theorem Keeps.settles_error (h : s.Keeps d records) (e : Error) : s.Settles records (.ofError e, d) :=
  ⟨records, h, accounts_error records e⟩

/-! ## One action -/

/-- A session settles what was stored if it either fails and changes nothing or changes the number of specimens as its
response reports. -/
theorem Keeps.settles_run (h : s.Keeps d records) {run : Database.Session Nat} {encode : Nat → Response}
    (hencode : ∀ n, (encode n).status = 200)
    (hrun : ∀ store : Store, store.Carries records →
      (∃ (n : Nat) (changed : Store) (after : List Specimen), store.effect run = .ok (n, changed) ∧
        changed.Carries after ∧ after.length + (encode n).deleted = records.length + (encode n).inserted) ∨
      ∃ e, run.on store.database = (.error e, store.database)) :
    s.Settles records (respond (s.withStore d run).1 encode, (s.withStore d run).2) := by
  obtain ⟨store, hstore, hcarries⟩ := h.store?
  rw [withStore_fst hstore run, Database.Session.answer]
  rcases hrun store hcarries with ⟨n, changed, after, hok, hchanged, hcounted⟩ | ⟨e, herror⟩
  · have hon := Store.effect_eq_ok.mp hok
    rw [hon]
    exact ⟨after, h.withStore hstore (congrArg Prod.snd hon) hchanged, fun hstatus => absurd (hencode n) hstatus,
      hcounted⟩
  · rw [herror]
    exact ⟨records, h.withStore hstore (congrArg Prod.snd herror) hcarries, accounts_error records e⟩

theorem Keeps.insert (h : s.Keeps d records) {rs : List Specimen} (hrs : ∀ r ∈ rs, r.IsFinite) (unique : Bool) :
    s.Settles records (s.insert d rs unique) := by
  refine h.settles_run (fun _ => rfl) fun store hcarries => ?_
  rcases hcarries.insert hrs unique with ⟨added, changed, hok, hchanged⟩ | herror
  · refine Or.inl ⟨_, changed, _, hok, hchanged, ?_⟩
    rw [Response.deleted_insertedText, Response.inserted_insertedText, List.length_append, List.length_map,
      Nat.add_zero]
  · exact Or.inr herror

theorem Keeps.deleteBy (h : s.Keeps d records) {run : Database.Session Nat}
    (hdelete : ∀ store : Store, store.Carries records →
      (∃ (n : Nat) (changed : Store) (kept : List Specimen), store.effect run = .ok (n, changed) ∧
        kept.length + n = records.length ∧ changed.Carries kept) ∨
      ∃ e, run.on store.database = (.error e, store.database)) :
    s.Settles records (s.deleteBy d run) := by
  refine h.settles_run (fun _ => rfl) fun store hcarries => ?_
  rcases hdelete store hcarries with ⟨n, changed, kept, hok, hlength, hchanged⟩ | herror
  · refine Or.inl ⟨n, changed, kept, hok, hchanged, ?_⟩
    rw [Response.deleted_deletedText, Response.inserted_deletedText, hlength, Nat.add_zero]
  · exact Or.inr herror

theorem Keeps.insertBody (h : s.Keeps d records) (r : Request) (unique : Bool) :
    s.Settles records (s.insertBody d r unique) := by
  rw [Service.insertBody]
  split
  next response hresponse =>
    have hstatus := Request.text_error_status hresponse
    exact h.settles (Response.isSilent_of_status (show response.status ≠ 200 by omega))
  next body _ =>
    split
    next e _ => exact h.settles_error e
    next rs hrs => exact h.insert (Request.specimens_isFinite hrs) unique

theorem Keeps.sync (h : s.Keeps d records) (r : Request) : s.Settles records (s.sync d r) := by
  rw [Service.sync]
  split
  next response hresponse =>
    have hstatus := Request.url?_error_status hresponse
    exact h.settles (Response.isSilent_of_status (show response.status ≠ 200 by omega))
  next url _ =>
    split
    next e _ => exact h.settles_error e
    next source _ =>
      split
      next e _ => exact h.settles_error e
      next rs hrs => exact h.insert (tableRecords_isFinite hrs) true

/-- An action that only reads leaves what is stored, and reports no change. -/
theorem Keeps.perform_reads (h : s.Keeps d records) (r : Request) {a : Action} (ha : a.Reads) :
    s.Keeps (s.perform d r a).2 records ∧ (s.perform d r a).1.IsSilent := by
  cases a with
  | home => exact ⟨h, Response.isSilent_home⟩
  | select =>
    rw [perform]
    split
    · exact ⟨h, Response.isSilent_of_status (Response.ofError_status_ne _)⟩
    · exact ⟨h.withStore_reads (Store.Session.select_reads _), respond_isSilent Response.isSilent_records⟩
  | selectAll => exact ⟨h.withStore_reads (Store.Session.select_reads _), respond_isSilent Response.isSilent_records⟩
  | summary => exact ⟨h.withStore_reads Store.Session.summary_reads, respond_isSilent Response.isSilent_summary⟩
  | insert | delete | deleteAll | sync => exact ha.elim

theorem Keeps.settles_reads (h : s.Keeps d records) (r : Request) {a : Action} (ha : a.Reads) :
    s.Settles records (s.perform d r a) := by
  obtain ⟨hkeeps, hsilent⟩ := h.perform_reads r ha
  exact hkeeps.settles hsilent

/-- An action accounts for what it changes. -/
theorem Keeps.perform (h : s.Keeps d records) (r : Request) (a : Action) : s.Settles records (s.perform d r a) := by
  cases a with
  | home | select | selectAll | summary => exact h.settles_reads r trivial
  | insert unique => exact h.insertBody r unique
  | delete =>
    rw [Service.perform]
    split
    · exact h.settles_error _
    · exact h.deleteBy fun _ hcarries => hcarries.delete _
  | deleteAll => exact h.deleteBy fun _ hcarries => hcarries.deleteAll
  | sync => exact h.sync r

/-! ## Runs -/

/-- What is kept does not depend on the network. -/
theorem Keeps.onNetwork (h : s.Keeps d records) (network : Network) : { s with network }.Keeps d records :=
  ⟨h.opened⟩

/-- One request accounts for what it changes; only the response to HEAD does not tell. -/
theorem Keeps.handle (h : s.Keeps d records) (r : Request) :
    ∃ records', s.Keeps (s.handle d r).2 records' ∧
      ((s.handle d r).1.status ≠ 200 → records' = records) ∧
      (r.method ≠ "HEAD" → Accounts records (s.handle d r).1 records') := by
  obtain ⟨response, hhandle, hstatus⟩ | ⟨a, -, hfst, hsnd⟩ := s.handle_cases d r
  · rw [hhandle]
    have hsilent : response.IsSilent := Response.isSilent_of_status (by omega)
    exact ⟨records, h, fun _ => rfl, fun _ => accounts_unchanged hsilent⟩
  · obtain ⟨records', hkeeps, haccounts⟩ := h.perform r a
    rw [hfst, hsnd]
    refine ⟨records', hkeeps, fun hstatus => haccounts.kept ?_, fun hmethod => ?_⟩
    · split at hstatus <;> exact hstatus
    · rwa [if_neg hmethod]

/-- A GET request changes nothing, unless it is for the path that downloads. -/
theorem Keeps.handle_get (h : s.Keeps d records) {r : Request} (hmethod : r.method = "GET")
    (hpath : r.path ≠ "/records/sync") : s.Keeps (s.handle d r).2 records := by
  obtain ⟨response, hhandle, -⟩ | ⟨a, ⟨route, hroute, haction⟩, -, hsnd⟩ := s.handle_cases d r
  · rwa [hhandle]
  · have hreads : a.Reads := by
      rw [if_neg (by rw [hmethod]; decide), hmethod] at haction
      refine Action.reads_of_get (fun hsync => hpath (Route.path_of_sync ?_)) haction
      rw [hroute, hsync]
    rw [hsnd]
    exact (h.perform_reads r hreads).1

theorem Keeps.handle_all (h : s.Keeps d records) {r : Request} (hmethod : r.method = "GET")
    (hpath : r.path = "/records/all") : (s.handle d r).1 = .json (recordsJson records) := by
  obtain ⟨store, hstore, hcarries⟩ := h.store?
  rw [handle_get_all hmethod hpath, select_fst hstore, hcarries.select]
  rfl

theorem Keeps.isFinite (h : s.Keeps d records) : ∀ r ∈ records, r.IsFinite := by
  obtain ⟨store, -, hcarries⟩ := h.store?
  obtain ⟨rows, -, hholds⟩ := hcarries.table
  exact hholds.finite

/-- The response that lists all specimens is an array with one element for each of them. -/
theorem Keeps.parse_all (h : s.Keeps d records) {r : Request} (hmethod : r.method = "GET")
    (hpath : r.path = "/records/all") :
    ∃ elements, Json.parse (s.handle d r).1.body = .ok (.array elements) ∧ elements.length = records.length := by
  rw [h.handle_all hmethod hpath]
  exact ⟨_, Specimen.parse_recordsJson h.isFinite, List.length_map _⟩

/-- A run leaves a disk that keeps some specimens, and without HEAD its responses account for their number. -/
theorem Keeps.serve (h : s.Keeps d records) (arrivals : List Arrival) :
    ∃ records', s.Keeps (s.serve d arrivals).2 records' ∧
      ((∀ a ∈ arrivals, a.request.method ≠ "HEAD") →
        records'.length + ((s.serve d arrivals).1.map Response.deleted).sum =
          records.length + ((s.serve d arrivals).1.map Response.inserted).sum) := by
  induction arrivals generalizing d records with
  | nil => exact ⟨records, h, fun _ => rfl⟩
  | cons a rest ih =>
    -- each request has its own network, which the kept specimens do not depend on
    obtain ⟨between, hkeeps, -, haccounts⟩ := (h.onNetwork a.network).handle a.request
    obtain ⟨records', hkeeps', hsum⟩ := ih (hkeeps.onNetwork s.network)
    refine ⟨records', hkeeps', fun hmethod => ?_⟩
    have hfirst := (haccounts (hmethod a List.mem_cons_self)).counted
    have hrest := hsum fun b hb => hmethod b (List.mem_cons_of_mem a hb)
    simp only [Service.serve, Service.answer, List.map_cons, List.sum_cons] at hrest ⊢
    omega

theorem Reachable.keeps (h : s.Reachable d) : ∃ records, s.Keeps d records := by
  obtain ⟨d₀, arrivals, hstart, rfl⟩ := h
  obtain ⟨records, hkeeps, -⟩ := hstart.keeps.serve arrivals
  exact ⟨records, hkeeps⟩

/-- After any run on a disk that stored no specimens at first, there are as many as the responses report to be inserted,
less those they report to be deleted. A further request changes nothing if it is not answered with success, or is a GET
request other than for a download; and for all specimens it is answered with those, in an array of as many elements. -/
theorem stored_as_reported (hd : s.StartsEmpty d) (arrivals : List Arrival)
    (hmethod : ∀ a ∈ arrivals, a.request.method ≠ "HEAD") :
    ∃ records : List Specimen,
      s.stored (s.serve d arrivals).2 = .ok records ∧
      records.length + ((s.serve d arrivals).1.map Response.deleted).sum =
        ((s.serve d arrivals).1.map Response.inserted).sum ∧
      ∀ a : Arrival,
        ((s.answer (s.serve d arrivals).2 a).1.status ≠ 200 →
          s.stored (s.answer (s.serve d arrivals).2 a).2 = .ok records) ∧
        (a.request.method = "GET" → a.request.path ≠ "/records/sync" →
          s.stored (s.answer (s.serve d arrivals).2 a).2 = .ok records) ∧
        (a.request.method = "GET" → a.request.path = "/records/all" →
          (s.answer (s.serve d arrivals).2 a).1 = .json (recordsJson records) ∧
          ∃ elements, Json.parse (s.answer (s.serve d arrivals).2 a).1.body = .ok (.array elements) ∧
            elements.length = records.length) := by
  obtain ⟨records, hkeeps, hsum⟩ := hd.keeps.serve arrivals
  refine ⟨records, hkeeps.stored, (hsum hmethod).trans (Nat.zero_add _), fun a => ⟨fun hstatus => ?_, ?_, ?_⟩⟩
  · obtain ⟨records', hkeeps', hkept, -⟩ := (hkeeps.onNetwork a.network).handle a.request
    rw [← hkept hstatus]
    exact (hkeeps'.onNetwork s.network).stored
  · exact fun hget hpath => (((hkeeps.onNetwork a.network).handle_get hget hpath).onNetwork s.network).stored
  · intro hget hpath
    have hnetwork := hkeeps.onNetwork a.network
    exact ⟨hnetwork.handle_all hget hpath, hnetwork.parse_all hget hpath⟩

/-- Two specimens, a body that is malformed after its first specimen, the deletion of all, and twice the same specimen
of which there is to be one. -/
def visits : List Arrival :=
  [.plain "POST" "/records" "[{},{}]", .plain "POST" "/records" "[{},1]", .plain "DELETE" "/records/all" "",
    .plain "POST" "/records/unique" "[{},{}]"]

theorem stored_as_reported_visits :
    offline.StartsEmpty .empty ∧ (∀ a ∈ visits, a.request.method ≠ "HEAD") ∧
    (offline.serve .empty visits).1 =
      [.text 200 (insertedText 2), .ofError (.parse "expected a JSON object per row, got 1"),
        .text 200 (deletedText 2), .text 200 (insertedText 1)] ∧
    ∃ records, offline.stored (offline.serve .empty visits).2 = .ok records ∧ records.length = 1 ∧
      ∃ elements, Json.parse (offline.answer (offline.serve .empty visits).2 (.plain "GET" "/records/all" "")).1.body =
        .ok (.array elements) ∧ elements.length = 1 := by
  have hmethod : ∀ a ∈ visits, a.request.method ≠ "HEAD" := by decide
  have hserve : (offline.serve .empty visits).1 =
      [.text 200 (insertedText 2), .ofError (.parse "expected a JSON object per row, got 1"),
        .text 200 (deletedText 2), .text 200 (insertedText 1)] := by decide +kernel
  obtain ⟨records, hstored, hsum, hanswers⟩ := stored_as_reported offline_startsEmpty visits hmethod
  obtain ⟨-, elements, hparse, hlength⟩ := (hanswers (.plain "GET" "/records/all" "")).2.2 rfl rfl
  have hfailed := Response.isSilent_of_status (Response.ofError_status_ne (.parse "expected a JSON object per row, got 1"))
  simp only [hserve, List.map_cons, List.map_nil, List.sum_cons, List.sum_nil, Response.inserted_insertedText,
    Response.inserted_deletedText, Response.deleted_insertedText, Response.deleted_deletedText, hfailed.inserted,
    hfailed.deleted] at hsum
  have hone : records.length = 1 := by omega
  exact ⟨offline_startsEmpty, hmethod, hserve, records, hstored, hone, elements, hparse, hlength.trans hone⟩

end Service

end Herbarium.Http
