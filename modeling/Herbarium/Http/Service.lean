import Herbarium.Disk
import Herbarium.Download
import Herbarium.Filter.Parser
import Herbarium.Http.Message
import Herbarium.Http.Query
import Herbarium.Store

/-!
The service.

Requests read, insert and delete specimens of the store in one database, download more and report statistics. Each
request that needs the store opens the database anew. What a request asks for is read before the database is opened,
so a request that does not read leaves the disk as it was.
-/

namespace Herbarium.Http

/-- What a service is set up with. -/
structure Service where
  /-- The path of the database. -/
  database : String
  /-- The address to download from when a request names none. -/
  defaultUrl : String
  network : Network

/-- The paths that are served. -/
inductive Route where
  | home
  | records
  | allRecords
  | uniqueRecords
  | sync
  | summary
  deriving DecidableEq

namespace Route

def ofPath? (path : String) : Option Route :=
  match path with
  | "/" => some home
  | "/records" => some records
  | "/records/all" => some allRecords
  | "/records/unique" => some uniqueRecords
  | "/records/sync" => some sync
  | "/records/summary" => some summary
  | _ => none

/-- The methods of a route, as a refusal lists them. -/
def allowed : Route → String
  | home | sync | summary => "GET,HEAD"
  | records => "GET,HEAD,POST,DELETE"
  | allRecords => "GET,HEAD,DELETE"
  | uniqueRecords => "POST"

end Route

/-- What a request asks the service to do. -/
inductive Action where
  | home
  | select
  | selectAll
  | insert (unique : Bool)
  | delete
  | deleteAll
  | sync
  | summary
  deriving DecidableEq

/-- The action of a method on a route. -/
def Route.action? (route : Route) (method : String) : Option Action :=
  match route, method with
  | .home, "GET" => some .home
  | .records, "GET" => some .select
  | .records, "POST" => some (.insert false)
  | .records, "DELETE" => some .delete
  | .allRecords, "GET" => some .selectAll
  | .allRecords, "DELETE" => some .deleteAll
  | .uniqueRecords, "POST" => some (.insert true)
  | .sync, "GET" => some .sync
  | .summary, "GET" => some .summary
  | _, _ => none

def homePage : String :=
  "<h1>Iris dataset api</h1>" ++
  "<h2>Available endpoints:</h2>" ++
  "<p>GET /records - query stored data, filter with where=column&lt;operator&gt;value</p>" ++
  "<p>GET /records/all - all stored data</p>" ++
  "<p>POST /records, POST /records/unique - insert CSV or JSON rows</p>" ++
  "<p>DELETE /records, DELETE /records/all - delete rows</p>" ++
  "<p>GET /records/sync?url=... - download and insert new rows</p>" ++
  "<p>GET /records/summary - column statistics</p>"

/-- Whether a header's value is text: printable ASCII and tabs. -/
def isHeaderText (value : String) : Bool :=
  value.toList.all fun c => (32 ≤ c.toNat && c.toNat < 127) || c == '\t'

/-- Whether a request declares its body as a table. -/
def Request.isCsv (r : Request) : Bool :=
  match r.headers.find? fun h => Text.sameFolded h.1 "content-type" with
  | some (_, value) =>
    isHeaderText value && "text/csv".toList.isPrefixOf (Text.asciiFold (Text.trim value)).toList
  | none => false

def tableRecords (source : String) : Except Error (List Specimen) :=
  ((Specimen.ofCsv source).map fun rs => rs.map Specimen.Reading.specimen).mapError fun f => f.toError source

def Request.specimens (r : Request) (body : String) : Except Error (List Specimen) :=
  if r.isCsv then tableRecords body
  else ((Specimen.ofJson body).map fun rs => rs.map Specimen.Reading.specimen).mapError fun f => f.toError body

/-- The filters of a request: the values of its `where` parameters. -/
def Request.filters (r : Request) : Except Error (List Filter) :=
  (Filter.parseAll (Query.values "where" (Query.parse r.query))).mapError fun f => .parse f.message

/-- The address a request names, if it names one. -/
def Request.url? (r : Request) : Except Response (Option String) :=
  match Query.values "url" (Query.parse r.query) with
  | [] => .ok none
  | [url] => .ok (some url)
  | _ => .error (.text 400 "Failed to deserialize query string: duplicate field `url`")

/-- The response to what may fail. -/
def respond {α : Type} (r : Except Error α) (encode : α → Response) : Response :=
  match r with
  | .ok a => encode a
  | .error e => .ofError e

/-- Specimens as a JSON array. -/
def recordsJson (records : List Specimen) : String :=
  (Json.array (records.map Specimen.toJson)).render

def insertedText (n : Nat) : String := s!"Inserted {n} rows."

def deletedText (n : Nat) : String := s!"Deleted {n} rows"

namespace Service

/-- Opens the store, runs a session on it and closes it: the outcome, and the disk with all that the session changed,
whether it failed or not. -/
def withStore {α : Type} (s : Service) (d : Disk) (run : Database.Session α) : Except Error α × Disk :=
  match Handle.openPath d s.database with
  | .error e => (.error e, d)
  | .ok (d, handle) =>
    let (result, db) := (Store.Session.opened run).on (handle.read d)
    (result, (handle.write d db).1)

def insert (s : Service) (d : Disk) (records : List Specimen) (unique : Bool) : Response × Disk :=
  let (result, d) := s.withStore d (Store.Session.insert records unique)
  (respond result fun n => .text 200 (insertedText n), d)

def insertBody (s : Service) (d : Disk) (r : Request) (unique : Bool) : Response × Disk :=
  match r.text with
  | .error response => (response, d)
  | .ok body =>
    match r.specimens body with
    | .error e => (.ofError e, d)
    | .ok records => s.insert d records unique

/-- Reads the specimens that pass filters. -/
def select (s : Service) (d : Disk) (filters : List Filter) : Response × Disk :=
  let (result, d) := s.withStore d (Store.Session.select filters)
  (respond result fun records => .json (recordsJson records), d)

/-- Deletes specimens in some way. -/
def deleteBy (s : Service) (d : Disk) (run : Database.Session Nat) : Response × Disk :=
  let (result, d) := s.withStore d run
  (respond result fun n => .text 200 (deletedText n), d)

/-- Downloads a table and inserts its new specimens. -/
def sync (s : Service) (d : Disk) (r : Request) : Response × Disk :=
  match r.url? with
  | .error response => (response, d)
  | .ok url =>
    match Download.fetch s.network (url.getD s.defaultUrl) with
    | .error e => (.ofError e, d)
    | .ok source =>
      match tableRecords source with
      | .error e => (.ofError e, d)
      | .ok records => s.insert d records true

def perform (s : Service) (d : Disk) (r : Request) : Action → Response × Disk
  | .home => (.html homePage, d)
  | .select =>
    match r.filters with
    | .error e => (.ofError e, d)
    | .ok filters => s.select d filters
  | .selectAll => s.select d []
  | .insert unique => s.insertBody d r unique
  | .delete =>
    match r.filters with
    | .error e => (.ofError e, d)
    | .ok filters => s.deleteBy d (Store.Session.delete filters)
  | .deleteAll => s.deleteBy d Store.Session.deleteAll
  | .sync => s.sync d r
  | .summary =>
    let (result, d) := s.withStore d Store.Session.summary
    (respond result fun summary => .json summary.toJson.render, d)

/-- Answers a request. HEAD is answered as GET is, without the body. -/
def handle (s : Service) (d : Disk) (r : Request) : Response × Disk :=
  match Route.ofPath? r.path with
  | none => (.notFound, d)
  | some route =>
    let method := if r.method = "HEAD" then "GET" else r.method
    match route.action? method with
    | none => (.notAllowed route.allowed, d)
    | some action =>
      let (response, d) := s.perform d r action
      (if r.method = "HEAD" then response.withoutBody else response, d)

end Service

end Herbarium.Http
