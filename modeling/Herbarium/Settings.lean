import Herbarium.Disk
import Herbarium.Json.Printer
import Herbarium.Port
import Herbarium.Text.Blank
import Herbarium.Toml.Parser

/-!
Settings.

A setting has a default, a TOML document may give another value, and the environment overrides both. A document is
read leniently in what it leaves out and strictly in what it gives: sections and keys that are not known are passed
over, those that are missing keep their defaults, and a value of the wrong kind spoils the whole document. A section is
written as a table or as an array of its fields in order.
-/

namespace Herbarium

/-- Where the service listens. -/
structure Settings.Server where
  host : String := "0.0.0.0"
  port : Port := 7000
  deriving DecidableEq

/-- How much is logged, and whether in colour. -/
structure Settings.Logging where
  level : String := "info"
  ansi : Bool := true
  deriving DecidableEq

/-- What is downloaded unless a request says otherwise. -/
def Settings.standardUrl : String :=
  "https://gist.githubusercontent.com/curran/a08a1080b88344b0c8a7/raw/0e7a9b0a5d22642a06d3d5b9bcbad9890c8ee534/iris.csv"

structure Settings where
  server : Settings.Server := {}
  /-- The path of the database. -/
  database : String := "./data/iris.db"
  /-- The address to download from when a request names none. -/
  defaultUrl : String := Settings.standardUrl
  logging : Settings.Logging := {}
  deriving DecidableEq

abbrev Environment := String → Option String

namespace Settings

/-! Documents. -/

/-- The fields a section gives, by name. A time is a section that gives none of the fields asked for. -/
def fieldsOf (names : List String) : Toml → Option Toml.Entries
  | .table _ entries => some entries
  | .array elements => some (names.zip elements)
  | .tables elements => some (names.zip (elements.map (Toml.table .header)))
  | .datetime => some []
  | .string _ | .integer _ | .float | .boolean _ => none

/-- The fields of a section; a section that is not there gives none. -/
def section? (document : Toml.Entries) (name : String) (fields : List String) : Option Toml.Entries :=
  match Toml.get? name document with
  | none => some []
  | some v => fieldsOf fields v

/-- The value of a field, or its default if it is not given; nothing if it does not read. -/
def field? {α : Type} (read : Toml → Option α) (entries : Toml.Entries) (name : String) (default : α) : Option α :=
  match Toml.get? name entries with
  | none => some default
  | some v => read v

def textOf? : Toml → Option String
  | .string s => some s
  | _ => none

def portOf? : Toml → Option Port
  | .integer n => Port.ofInt? n
  | _ => none

def flagOf? : Toml → Option Bool
  | .boolean b => some b
  | _ => none

/-- The settings a document gives. -/
def ofDocument? (document : Toml.Entries) : Option Settings := do
  let server ← section? document "server" ["host", "port"]
  let database ← section? document "database" ["path"]
  let sync ← section? document "sync" ["default_url"]
  let logging ← section? document "logging" ["level", "ansi"]
  let standard : Settings := {}
  return {
    server := {
      host := ← field? textOf? server "host" standard.server.host
      port := ← field? portOf? server "port" standard.server.port }
    database := ← field? textOf? database "path" standard.database
    defaultUrl := ← field? textOf? sync "default_url" standard.defaultUrl
    logging := {
      level := ← field? textOf? logging "level" standard.logging.level
      ansi := ← field? flagOf? logging "ansi" standard.logging.ansi } }

def ofToml (source : String) : Except Error Settings :=
  match (Toml.parse source).bind ofDocument? with
  | some s => .ok s
  | none => .error (.parse "TOML parse error")

def ofFile (d : Disk) (path : String) : Except Error Settings :=
  match d.readText path with
  | .error f => .error (.internal ("cannot read config " ++ path ++ ": " ++ f.message))
  | .ok source => (ofToml source).mapError fun e => .parse ("invalid config " ++ path ++ ": " ++ e.message)

/-! The environment. -/

def readPort (raw : String) : Except Error Port :=
  match Port.read? (Text.trim raw) with
  | some p => .ok p
  | none => .error (.parse ("IRISDB_PORT is not a port number: " ++ raw))

/-- The port the environment sets, or the one given. -/
def portIn (env : Environment) (port : Port) : Except Error Port :=
  match env "IRISDB_PORT" with
  | some raw => readPort raw
  | none => .ok port

/-- The settings as the environment overrides them. -/
def override (s : Settings) (env : Environment) : Except Error Settings := do
  return {
    server := {
      host := (env "IRISDB_HOST").getD s.server.host
      port := ← portIn env s.server.port }
    database := (env "IRISDB_SQL_PATH").getD s.database
    defaultUrl := (env "IRISDB_DATA_URL").getD s.defaultUrl
    logging := { s.logging with level := (env "IRISDB_LOG_LEVEL").getD s.logging.level } }

/-- The settings of a file, if there is one, as the environment overrides them. -/
def load (d : Disk) (env : Environment) (path : Option String) : Except Error Settings := do
  let s ← match path with
    | some path => ofFile d path
    | none => .ok {}
  s.override env

def toJson (s : Settings) : Json :=
  .object [
    ("server", .object [("host", .string s.server.host), ("port", .integer s.server.port.toNat)]),
    ("database", .object [("path", .string s.database)]),
    ("sync", .object [("default_url", .string s.defaultUrl)]),
    ("logging", .object [("level", .string s.logging.level), ("ansi", .bool s.logging.ansi)])]

end Settings

end Herbarium
