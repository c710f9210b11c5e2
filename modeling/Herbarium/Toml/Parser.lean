import Herbarium.Toml.Scalar

/-!
Reading TOML documents.

A document is a sequence of lines: headers, keys with their values, comments and blank lines. Values may be arrays,
which spread over lines, and inline tables, which do not. `parse` gives the document's table, or nothing if the text is
no document.
-/

namespace Herbarium.Toml

/-- Drops a comment, if there is one, up to the end of its line. -/
def skipComment : List Char → Option (List Char)
  | '#' :: rest =>
    let (comment, rest) := rest.span fun c => c != '\n' && c != '\r'
    if comment.any isControl then none else some rest
  | cs => some cs

/-- Drops what may follow a line's content: blanks, a comment and the line end. -/
def readLineEnd (cs : List Char) : Option (List Char) := do
  match ← skipComment (skipBlanks cs) with
  | [] => some []
  | rest => readNewline rest

/-- Drops blanks, comments and line ends. -/
def skipSpace : Nat → List Char → Option (List Char)
  | 0, cs => some cs
  | fuel + 1, cs =>
    match skipBlanks cs with
    | '#' :: rest => do skipSpace fuel (← skipComment ('#' :: rest))
    | [] => some []
    | rest =>
      match readNewline rest with
      | some rest => skipSpace fuel rest
      | none => some rest

def readWord (word : List Char) (v : Toml) : Reader Toml := fun cs =>
  if word.isPrefixOf cs then some (v, cs.drop word.length) else none

/-- Reads the elements of an array after its opening bracket or a comma. -/
def readElements (value : Reader Toml) : Nat → List Toml → Reader Toml
  | 0, _, _ => none
  | fuel + 1, read, cs => do
    match ← skipSpace cs.length cs with
    | ']' :: rest => return (.array read.reverse, rest)
    | rest => do
      let (v, rest) ← value rest
      match ← skipSpace rest.length rest with
      | ',' :: rest => readElements value fuel (v :: read) rest
      | ']' :: rest => return (.array (v :: read).reverse, rest)
      | _ => none

/-- Reads the entries of an inline table, of which there is at least one. -/
def readEntries (value : Reader Toml) : Nat → Entries → Reader Toml
  | 0, _, _ => none
  | fuel + 1, read, cs => do
    let ((path, key), rest) ← readKey cs
    match rest with
    | '=' :: rest => do
      let (v, rest) ← value (skipBlanks rest)
      let read ← addDotted path key v read
      match skipBlanks rest with
      | ',' :: rest => readEntries value fuel read rest
      | '}' :: rest => return (.table .inline read, rest)
      | _ => none
    | _ => none

/-- Reads an inline table after its opening brace. -/
def readInline (value : Reader Toml) (cs : List Char) : Option (Toml × List Char) :=
  match skipBlanks cs with
  | '}' :: rest => some (.table .inline [], rest)
  | rest => readEntries value rest.length [] rest

/-- Reads a value that is neither an array nor an inline table. -/
def readScalar : Reader Toml
  | [] => none
  | c :: rest =>
    let cs := c :: rest
    if c = '"' ∨ c = literalQuote then (readString cs).map fun (s, rest) => (.string s, rest)
    else if c = 't' then readWord "true".toList (.boolean true) cs
    else if c = 'f' then readWord "false".toList (.boolean false) cs
    else if startsAsDate cs || startsAsTime cs then readDatetime cs
    else readNumber cs

/-- Reads a value that nests at most as deep as a bound. -/
def readValue : Nat → Reader Toml
  | 0, cs => readScalar cs
  | depth + 1, cs =>
    match cs with
    | '[' :: rest => readElements (readValue depth) (rest.length + 1) [] rest
    | '{' :: rest => readInline (readValue depth) rest
    | _ => readScalar cs

def readEntry (d : Draft) (cs : List Char) : Option (Draft × List Char) := do
  let ((path, key), rest) ← readKey cs
  match rest with
  | '=' :: rest => do
    let (v, rest) ← readValue depthLimit (skipBlanks rest)
    let rest ← readLineEnd rest
    return (← d.add path key v, rest)
  | _ => none

def readHeader (d : Draft) (cs : List Char) : Option (Draft × List Char) := do
  match cs with
  | '[' :: '[' :: rest => do
    let ((path, key), rest) ← readKey rest
    match rest with
    | ']' :: ']' :: rest => do
      let rest ← readLineEnd rest
      return (← d.openElement (path ++ [key]), rest)
    | _ => none
  | '[' :: rest => do
    let ((path, key), rest) ← readKey rest
    match rest with
    | ']' :: rest => do
      let rest ← readLineEnd rest
      return (← d.openTable (path ++ [key]), rest)
    | _ => none
  | _ => none

/-- Reads lines to the end of a text. The bound on the steps is met by the length of the text. -/
def readLines : Nat → Draft → List Char → Option Draft
  | 0, _, _ => none
  | fuel + 1, d, cs => do
    match ← skipSpace cs.length cs with
    | [] => some d
    | '[' :: rest => do
      let (d, rest) ← readHeader d ('[' :: rest)
      readLines fuel d rest
    | rest => do
      let (d, rest) ← readEntry d rest
      readLines fuel d rest

/-- The text without the byte order mark at its start. -/
def dropMark : List Char → List Char
  | c :: rest => if c.toNat = 0xFEFF then rest else c :: rest
  | [] => []

def parse (source : String) : Option Entries := do
  let cs := dropMark source.toList
  (← readLines (cs.length + 1) .empty cs).finish

end Herbarium.Toml
