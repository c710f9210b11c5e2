import Herbarium.Url.Percent

/-!
Where a database is.

A location is a path, or an address that starts with `file:`. An address may name a host, which must be this machine;
its path may be percent-encoded, and options may follow that say how the database is opened and on which file system. An
encoded zero byte ends the part in which it stands.
-/

namespace Herbarium

/-- How a database is opened. -/
inductive Access where
  | readOnly
  /-- To be changed, if it is there. -/
  | existing
  /-- To be changed, and made if it is not there. -/
  | made
  /-- On no disk. -/
  | memory
  deriving DecidableEq

namespace Access

/-- How much is allowed; an option cannot ask for more than is allowed already. -/
def rank : Access → Nat
  | readOnly => 1
  | existing => 2
  | made => 3
  | memory => 4

def read? (mode : String) : Option Access :=
  match mode with
  | "ro" => some readOnly
  | "rw" => some existing
  | "rwc" => some made
  | "memory" => some memory
  | _ => none

end Access

structure Location where
  path : String
  access : Access := .made
  /-- The name of the file system. -/
  system : String := "unix"
  deriving DecidableEq

namespace Location

/-- Why a text is no location. -/
inductive Fault where
  | foreignHost (host : String)
  | cacheMode (mode : String)
  | accessMode (mode : String)
  | accessRefused (mode : String)
  | fileSystem (name : String)
  deriving DecidableEq

def Fault.message : Fault → String
  | .foreignHost host => "invalid uri authority: " ++ host
  | .cacheMode mode => "no such cache mode: " ++ mode
  | .accessMode mode => "no such access mode: " ++ mode
  | .accessRefused mode => "access mode not allowed: " ++ mode
  | .fileSystem name => "no such vfs: " ++ name

def memoryPath : String := ":memory:"

/-- The file system that is in memory. -/
def memorySystem : String := "memdb"

/-- The names of the file systems. -/
def systems : List String := ["unix", "unix-none", "unix-dotfile", "unix-excl", memorySystem]

/-- A part of an address, up to a zero byte. -/
def decodePart (cs : List Char) : String :=
  String.ofList (Text.Utf8.decodeLossy ((Url.decodeBytes (Text.Utf8.encode cs)).takeWhile (· != 0)))

/-- What follows the host of an address. -/
def dropHost : List Char → Except Fault (List Char)
  | '/' :: '/' :: rest =>
    let (host, path) := rest.span (· != '/')
    if host = [] ∨ host = "localhost".toList then .ok path else .error (.foreignHost (String.ofList host))
  | cs => .ok cs

/-- An option as name and value. -/
def decodeOption (cs : List Char) : String × String :=
  match cs.span (· != '=') with
  | (name, _ :: value) => (decodePart name, decodePart value)
  | (name, []) => (decodePart name, "")

/-- The options after a question mark. -/
def options (query : List Char) : List (String × String) :=
  ((query.splitOn '&').map decodeOption).filter fun o => o.1 ≠ ""

/-- The location with an option; one that is not known changes nothing. -/
def withOption (l : Location) (name value : String) : Except Fault Location :=
  match name with
  | "vfs" => .ok { l with system := value }
  | "cache" => if value = "shared" ∨ value = "private" then .ok l else .error (.cacheMode value)
  | "mode" =>
    match Access.read? value with
    | none => .error (.accessMode value)
    | some a =>
      if a ≠ .memory ∧ l.access.rank < a.rank then .error (.accessRefused value) else .ok { l with access := a }
  | _ => .ok l

/-- Reads an address after its `file:`. -/
def readAddress (cs : List Char) : Except Fault Location := do
  let (path, rest) := ((← dropHost cs).takeWhile (· != '#')).span (· != '?')
  let l ← (options (rest.drop 1)).foldlM (fun l o => l.withOption o.1 o.2) { path := decodePart path }
  if l.system ∈ systems then return l else throw (.fileSystem l.system)

def read (text : String) : Except Fault Location :=
  match text.toList with
  | 'f' :: 'i' :: 'l' :: 'e' :: ':' :: rest => readAddress rest
  | _ => .ok { path := text }

/-- Whether a location is on no disk. -/
def isMemory (l : Location) : Bool :=
  l.path = "" ∨ l.path = memoryPath ∨ l.access = .memory ∨ l.system = memorySystem

/-- Whether a database at a location can be changed. -/
def writable (l : Location) : Bool := l.access ≠ .readOnly

end Location

end Herbarium
