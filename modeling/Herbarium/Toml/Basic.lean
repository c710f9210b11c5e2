/-!
TOML documents.

A document is a table of keys and values. A table remembers how it came to be, because that decides whether a later
line may add to it: a header makes a table once, a longer header implies the tables above it, a dotted key makes tables
that only dotted keys extend, and an inline table is complete where it stands.
-/

namespace Herbarium

/-- How a table came to be. -/
inductive Toml.Origin where
  /-- By a header of its own. -/
  | header
  /-- By a header of a longer name. -/
  | implied
  /-- By a dotted key. -/
  | dotted
  /-- By braces. -/
  | inline
  deriving DecidableEq

/-- A value of a document. Numbers with a fraction and times are known to be there, not what they are. -/
inductive Toml where
  | string (s : String)
  | integer (n : Int)
  | float
  | boolean (b : Bool)
  | datetime
  | array (elements : List Toml)
  | table (origin : Toml.Origin) (entries : List (String × Toml))
  /-- An array of tables, the last of which is the one that later lines add to. -/
  | tables (elements : List (List (String × Toml)))

namespace Toml

/-- The keys and values of a table. -/
abbrev Entries := List (String × Toml)

def get? (key : String) (es : Entries) : Option Toml :=
  (es.find? fun e => e.1 == key).map Prod.snd

/-- The table with a key's value replaced or added. -/
def put (key : String) (v : Toml) (es : Entries) : Entries :=
  if es.any fun e => e.1 == key then es.map fun e => if e.1 == key then (key, v) else e else es ++ [(key, v)]

def remove (key : String) (es : Entries) : Entries :=
  es.filter fun e => e.1 != key

def changeLast (f : Entries → Option Entries) (ts : List Entries) : Option (List Entries) := do
  let last ← ts.getLast?
  let changed ← f last
  return ts.dropLast ++ [changed]

/-- Changes the table a header's path leads to; tables that are missing on the way are implied. -/
def descend (f : Entries → Option Entries) : List String → Entries → Option Entries
  | [], es => f es
  | key :: rest, es =>
    match get? key es with
    | none => do
      let inner ← descend f rest []
      return put key (.table .implied inner) es
    | some (.table .inline _) => none
    | some (.table origin inner) => do
      let inner ← descend f rest inner
      return put key (.table origin inner) es
    | some (.tables ts) => do
      let ts ← changeLast (descend f rest) ts
      return put key (.tables ts) es
    | some _ => none

/-- Changes the table a dotted key's path leads to; tables that are missing are made by the key. The last one must be
one that dotted keys made, those above it must have no header of their own. -/
def descendDotted (f : Entries → Option Entries) : List String → Entries → Option Entries
  | [], es => f es
  | key :: rest, es =>
    match get? key es with
    | none => do
      let inner ← descendDotted f rest []
      return put key (.table .dotted inner) es
    | some (.table .dotted inner) => do
      let inner ← descendDotted f rest inner
      return put key (.table .dotted inner) es
    | some (.table .implied inner) =>
      if rest.isEmpty then none
      else do
        let inner ← descendDotted f rest inner
        return put key (.table .implied inner) es
    | some (.tables ts) =>
      if rest.isEmpty then none
      else do
        let ts ← changeLast (descendDotted f rest) ts
        return put key (.tables ts) es
    | some _ => none

/-- The table with a new key; a key is given once. -/
def addNew (key : String) (v : Toml) (es : Entries) : Option Entries :=
  match get? key es with
  | none => some (es ++ [(key, v)])
  | some _ => none

/-- The table with the value of a dotted key, given as the keys on the way and the last one. -/
def addDotted (path : List String) (key : String) (v : Toml) (es : Entries) : Option Entries :=
  descendDotted (addNew key v) path es

/-- A document as it is read: the tables that are complete, and the one that lines are added to. -/
structure Draft where
  root : Entries
  /-- The name of the header above, empty before the first one. -/
  path : List String
  /-- Whether that header adds a table to an array. -/
  isElement : Bool
  current : Entries

namespace Draft

def empty : Draft := { root := [], path := [], isElement := false, current := [] }

/-- Puts a complete table in its place. -/
def place (d : Draft) (key : String) (es : Entries) : Option Entries :=
  if d.isElement then
    match get? key es with
    | none => some (put key (.tables [d.current]) es)
    | some (.tables ts) => some (put key (.tables (ts ++ [d.current])) es)
    | some _ => none
  else some (put key (.table .header d.current) es)

/-- The document with the current table in its place. -/
def finish (d : Draft) : Option Entries :=
  match d.path.getLast? with
  | none => some d.current
  | some key => descend (d.place key) d.path.dropLast d.root

/-- What a header's own table starts with, if a header may make it: nothing, or what longer headers put into it. -/
def opened? (key : String) (es : Entries) : Option Entries :=
  match get? key es with
  | none => some []
  | some (.table .implied inner) => some inner
  | some _ => none

/-- Finds the table at a path, if there is one. -/
def lookUp? : List String → Entries → Option Entries
  | [], es => some es
  | key :: rest, es =>
    match get? key es with
    | some (.table _ inner) => lookUp? rest inner
    | some (.tables ts) => do lookUp? rest (← ts.getLast?)
    | _ => none

def openTable (d : Draft) (path : List String) : Option Draft := do
  let root ← d.finish
  let key ← path.getLast?
  let root ← descend some path.dropLast root
  let parent ← lookUp? path.dropLast root
  let current ← opened? key parent
  let root ← descend (fun es => some (remove key es)) path.dropLast root
  return { root, path, isElement := false, current }

def openElement (d : Draft) (path : List String) : Option Draft := do
  let root ← d.finish
  let key ← path.getLast?
  let root ← descend some path.dropLast root
  let parent ← lookUp? path.dropLast root
  match get? key parent with
  | none | some (.tables _) => return { root, path, isElement := true, current := [] }
  | some _ => none

/-- Adds a key and its value to the current table. -/
def add (d : Draft) (path : List String) (key : String) (v : Toml) : Option Draft := do
  return { d with current := ← addDotted path key v d.current }

end Draft

end Toml

end Herbarium
