import Herbarium.Http.Wire
import Herbarium.Startup

/-!
The program.

It starts as its command line says, prints what the start logs and reports, and then answers the requests on its
standard input, one connection from end to end. Specimens are kept for as long as it runs.
-/

namespace Herbarium

/-- The variables that matter to a start. -/
def variableNames : List String :=
  ["IRISDB_HOST", "IRISDB_PORT", "IRISDB_SQL_PATH", "IRISDB_DATA_URL", "IRISDB_LOG_LEVEL", "RUST_LOG"]

def readEnvironment : IO Environment := do
  let values ← variableNames.mapM fun name => return (name, ← IO.getEnv name)
  return fun key => ((values.find? fun v => v.1 == key).bind Prod.snd)

/-- A disk with the file of settings that the command line names. -/
def readDisk (words : List String) : IO Disk := do
  match CommandLine.read words with
  | .run { config := some path, .. } =>
    try return Disk.empty.create path (some (← IO.FS.readFile path))
    catch _ => return Disk.empty
  | _ => return Disk.empty

/-- Reads the lines of a head, up to the empty line that ends it. -/
partial def readHead (input : IO.FS.Stream) : IO (List String) := do
  let line := (← input.getLine).trimAsciiEnd.copy
  if line.isEmpty then return [] else return line :: (← readHead input)

/-- Reads a number of bytes, or those there are. -/
partial def readBytes (input : IO.FS.Stream) (count : Nat) : IO ByteArray := do
  if count = 0 then return ByteArray.empty
  let bytes ← input.read (USize.ofNat count)
  if bytes.isEmpty then return bytes else return bytes ++ (← readBytes input (count - bytes.size))

/-- Answers requests until the input ends or one does not read. -/
partial def serve (service : Http.Service) (input output : IO.FS.Stream) (disk : Disk) : IO Unit := do
  match Http.Request.ofHead? (← readHead input) with
  | none => return
  | some head =>
    let (response, disk) := service.handle disk { head with body := ← readBytes input head.bodyLength }
    output.putStr response.wire
    output.flush
    serve service input output disk

/-- No server is reached from the program. -/
def unreachable : Network := fun _ => none

end Herbarium

open Herbarium

def main (words : List String) : IO UInt32 := do
  match Startup.run (← readDisk words) (← readEnvironment) words with
  | .refused =>
    IO.eprintln "irisdb: the command line does not read; see irisdb --help"
    return 2
  | .shown text =>
    IO.println text
    return 0
  | .failed log reports =>
    log.forM IO.println
    reports.forM IO.eprintln
    return 1
  | .listening settings log reports disk =>
    reports.forM IO.eprintln
    log.forM IO.println
    serve (settings.service unreachable) (← IO.getStdin) (← IO.getStdout) disk
    return 0
