import Herbarium.CommandLine
import Herbarium.Http.Service
import Herbarium.Listener
import Herbarium.Log
import Herbarium.Settings
import Herbarium.Text.Quoted

/-!
The start of the service.

The settings come from the file that the command line names, then the environment, then the command line itself. The
database is opened and its specimens are counted before the service listens, so that a database that cannot be used
stops the start. Each step is logged as it is reached, and what fails is reported at the end.
-/

namespace Herbarium

/-- The failure that ends a program, with its kind and its texts in quotes. -/
def Error.report (e : Error) : String :=
  let text := match e with
    | parse detail => "Parse(" ++ Text.Quoted.write detail ++ ")"
    | schema detail => "Schema(" ++ Text.Quoted.write detail ++ ")"
    | connect path cause =>
      "Connect \x7b path: " ++ Text.Quoted.write path ++ ", cause: " ++ Text.Quoted.write cause ++ " \x7d"
    | operation detail => "Operation(" ++ Text.Quoted.write detail ++ ")"
    | invalidUrl detail => "InvalidUrl(" ++ Text.Quoted.write detail ++ ")"
    | fetch detail => "Fetch(" ++ Text.Quoted.write detail ++ ")"
    | internal detail => "Internal(" ++ Text.Quoted.write detail ++ ")"
  "Error: " ++ text

/-- The settings with what a command line sets. -/
def CommandLine.apply (line : CommandLine) (s : Settings) : Settings :=
  { s with
    server := { host := line.host.getD s.server.host, port := line.port.getD s.server.port }
    database := line.database.getD s.database }

namespace Startup

/-- The messages of the steps taken, and how the last of them ended. -/
structure Progress where
  messages : List String
  ending : Except Error Disk

/-- The messages before the database is opened. -/
def opening (s : Settings) : List String :=
  ["Starting irisdb v" ++ CommandLine.versionNumber, "  Database: " ++ s.database, "  Sync url: " ++ s.defaultUrl]

/-- Opens the store of a database and counts its specimens: their number, and the disk with the store. -/
def openStore (d : Disk) (path : String) : Except Error (Nat × Disk) := do
  let (d, handle) ← Handle.openPath d path
  let (count, db) ← (Store.Session.opened Store.Session.count).effect (handle.read d)
  return (count, (handle.write d db).1)

/-- Takes the steps from the settings on. -/
def proceed (d : Disk) (s : Settings) : Progress :=
  match openStore d s.database with
  | .error e => { messages := opening s, ending := .error e }
  | .ok (count, d) =>
    let counted := opening s ++ ["  Stored records: " ++ Decimal.integerText count]
    match Listener.listen s.server.host with
    | .error e => { messages := counted, ending := .error e }
    | .ok () =>
      { messages := counted ++ ["Server listening on " ++ Listener.address s.server.host s.server.port],
        ending := .ok d }

/-- What a start comes to. -/
inductive Outcome where
  /-- A command line that does not read. -/
  | refused
  /-- A text that was asked for. -/
  | shown (text : String)
  /-- A failure: what was logged, and what is reported. -/
  | failed (log : List String) (reports : List String)
  /-- A service: its settings, what was logged and reported so far, and its disk. -/
  | listening (settings : Settings) (log : List String) (reports : List String) (disk : Disk)

def start (d : Disk) (env : Environment) (s : Settings) : Outcome :=
  let (logged, reports) := Log.forStart (env "RUST_LOG") s.logging.level
  let progress := proceed d s
  let log := if logged then progress.messages else []
  match progress.ending with
  | .error e => .failed log (reports ++ [e.report])
  | .ok d => .listening s log reports d

/-- Starts with the words of a command line. -/
def run (d : Disk) (env : Environment) (words : List String) : Outcome :=
  match CommandLine.read words with
  | .refused => .refused
  | .help => .shown CommandLine.helpText
  | .version => .shown CommandLine.versionText
  | .run line =>
    match Settings.load d env line.config with
    | .error e => .failed [] [e.report]
    | .ok s => start d env (line.apply s)

end Startup

def Settings.service (s : Settings) (network : Network) : Http.Service :=
  { database := s.database, defaultUrl := s.defaultUrl, network }

end Herbarium
