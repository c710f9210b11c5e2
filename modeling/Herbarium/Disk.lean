import Herbarium.Database.Basic
import Herbarium.Database.Location
import Herbarium.Error

/-!
Files and databases on them.

A disk holds directories, text files and databases, each under a path relative to one place. Opening a database makes
the missing directories above the path it is opened by, and then opens the location that the path stands for, which may
be on no disk. A database opened twice under two spellings of its path is one database.
-/

namespace Herbarium

/-- What stands under a path. -/
inductive Node where
  | directory
  | file (content : String)
  | database (db : Database)

/-- A path as the names from the root on, none of them `.` or `..`. -/
abbrev Place := List String

/-- What is stored, by place; the root is a directory that is always there. -/
structure Disk where
  entries : List (Place × Node)

/-- Why a path cannot be used. -/
inductive DiskFault where
  | notFound
  | alreadyThere
  | notDirectory
  | isDirectory
  | nameTooLong
  | zeroByte
  deriving DecidableEq

def DiskFault.message : DiskFault → String
  | .notFound => "No such file or directory (os error 2)"
  | .alreadyThere => "File exists (os error 17)"
  | .notDirectory => "Not a directory (os error 20)"
  | .isDirectory => "Is a directory (os error 21)"
  | .nameTooLong => "File name too long (os error 36)"
  | .zeroByte => "file name contained an unexpected NUL byte"

namespace Disk

def empty : Disk := { entries := [] }

def node? (d : Disk) (p : Place) : Option Node :=
  if p = [] ∨ p = ["/"] then some .directory
  else (d.entries.find? fun e => e.1 == p).map Prod.snd

def put (d : Disk) (p : Place) (n : Node) : Disk :=
  { entries := (p, n) :: d.entries.filter fun e => e.1 != p }

/-- The names of a path; a slash at its start is a name of its own. -/
def names (path : String) : List String :=
  let parts := ((path.toList.splitOn '/').map String.ofList).filter fun s => s ≠ "" ∧ s ≠ "."
  if path.toList.head? = some '/' then "/" :: parts else parts

/-- The place of a path. All but its last name must be directories. -/
def placeOf (d : Disk) (start : Place) : List String → Except DiskFault Place
  | [] => .ok start
  | name :: rest =>
    match d.node? start with
    | none => .error .notFound
    | some .directory =>
      if name = ".." then placeOf d start.dropLast rest
      else if 255 < name.utf8ByteSize then .error .nameTooLong
      else placeOf d (start ++ [name]) rest
    | some (.file _) | some (.database _) => .error .notDirectory

def isDirectory (d : Disk) (path : List String) : Bool :=
  match d.placeOf [] path with
  | .ok p => match d.node? p with
    | some .directory => true
    | _ => false
  | .error _ => false

def makeDirectory (d : Disk) (path : List String) : Except DiskFault Disk := do
  let p ← d.placeOf [] path
  match d.node? p with
  | some _ => throw .alreadyThere
  | none =>
    match d.node? p.dropLast with
    | none => throw .notFound
    | some .directory => return d.put p .directory
    | some _ => throw .notDirectory

/-- Makes one directory unless it is there. -/
def ensureDirectory (d : Disk) (path : List String) : Except DiskFault Disk :=
  match d.makeDirectory path with
  | .ok d => .ok d
  | .error f => if d.isDirectory path then .ok d else .error f

/-- Makes a directory and those above it that are missing; `above` counts how many may be. -/
def makeDirectories (above : Nat) (d : Disk) (path : List String) : Except DiskFault Disk :=
  match above with
  | 0 => .ok d
  | above + 1 =>
    match d.makeDirectory path with
    | .ok d => .ok d
    | .error .notFound => do
      let d ← makeDirectories above d path.dropLast
      d.ensureDirectory path
    | .error f => if d.isDirectory path then .ok d else .error f

/-- Whether a text has a character that no path has. -/
def hasZero (s : String) : Bool := s.toList.contains (Char.ofNat 0)

def readText (d : Disk) (path : String) : Except DiskFault String := do
  if hasZero path then throw .zeroByte
  if path.isEmpty then throw .notFound
  let p ← d.placeOf [] (names path)
  match d.node? p with
  | none => throw .notFound
  | some .directory => throw .isDirectory
  | some (.file content) =>
    if path.toList.getLast? = some '/' then throw .notDirectory else return content
  | some (.database _) => return ""

/-- A disk with a text file, or a directory, and the directories above it. -/
def create (d : Disk) (path : String) (content : Option String) : Disk :=
  let ns := names path
  let d := match makeDirectories ns.length d ns.dropLast with
    | .ok d => d
    | .error _ => d
  match content with
  | some text => d.put ns (.file text)
  | none =>
    match makeDirectories (ns.length + 1) d ns with
    | .ok d => d
    | .error _ => d

end Disk

/-- An open database: in memory, or at a place of a disk. -/
inductive Handle where
  | memory (db : Database)
  | stored (place : Place) (writable : Bool)

namespace Handle

/-- Why a database does not open. -/
inductive Fault where
  | directories (fault : DiskFault)
  /-- A zero byte at a place in the path. -/
  | zeroByte (offset : Nat)
  | location (fault : Location.Fault)
  | unopenable (path : String)
  | unreadable
  | notDatabase
  deriving DecidableEq

def Fault.message : Fault → String
  | .directories f => f.message
  | .zeroByte offset => s!"nul byte found in provided data at position: {offset}"
  | .location f => f.message
  | .unopenable path => "unable to open database file: " ++ path
  | .unreadable => "disk I/O error"
  | .notDatabase => "file is not a database"

/-- The number of bytes before the first zero byte of a text. -/
def zeroOffset (s : String) : Nat :=
  (String.ofList (s.toList.takeWhile fun c => c.toNat != 0)).utf8ByteSize

def makeParents (d : Disk) (path : String) : Except DiskFault Disk :=
  let parent := (Disk.names path).dropLast
  if parent.any Disk.hasZero then .error .zeroByte else d.makeDirectories parent.length parent

def openPlace (d : Disk) (path : String) (l : Location) (p : Place) : Except Fault (Disk × Handle) :=
  match d.node? p with
  | some .directory => .error (if l.access = .readOnly ∧ p ≠ ["/"] then .unreadable else .unopenable path)
  | some (.file content) =>
    if content.isEmpty then .ok (d.put p (.database .empty), stored p l.writable) else .error .notDatabase
  | some (.database _) => .ok (d, stored p l.writable)
  | none =>
    if l.access = .made then .ok (d.put p (.database .empty), stored p l.writable) else .error (.unopenable path)

/-- Opens the database of a location, which is written as a path. -/
def openLocation (d : Disk) (path : String) (l : Location) : Except Fault (Disk × Handle) :=
  if l.isMemory then .ok (d, memory { tables := [], writable := l.writable })
  else match d.placeOf [] (Disk.names l.path) with
    | .ok p => openPlace d path l p
    | .error _ => .error (.unopenable path)

/-- Opens the database of a path. -/
def open? (d : Disk) (path : String) : Except Fault (Disk × Handle) := do
  let d ← (makeParents d path).mapError .directories
  if Disk.hasZero path then throw (.zeroByte (zeroOffset path))
  openLocation d path (← (Location.read path).mapError .location)

/-- Opens the database of a path, or reports why it does not open. -/
def openPath (d : Disk) (path : String) : Except Error (Disk × Handle) :=
  (open? d path).mapError fun f => .connect path f.message

/-- The database of a handle. -/
def read (h : Handle) (d : Disk) : Database :=
  match h with
  | memory db => db
  | stored p writable =>
    match d.node? p with
    | some (.database db) => { db with writable }
    | _ => { tables := [], writable }

/-- The disk and handle with the database changed. -/
def write (h : Handle) (d : Disk) (db : Database) : Disk × Handle :=
  match h with
  | memory _ => (d, memory db)
  | stored p writable => (d.put p (.database db), stored p writable)

end Handle

end Herbarium
