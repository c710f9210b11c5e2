import Herbarium.Text.Blank
import Herbarium.Text.Offset

/-!
Comma-separated text.

A text is a sequence of records, each ended by a carriage return, a line feed or the end of the text; blank lines hold
no record. A field may be quoted: then commas and line ends belong to it, and a quote within it is written twice.
Quotes elsewhere are ordinary characters, and so is what follows a closing quote. Fields are trimmed.

A record remembers the text that was unread before it, from which the report of a fault derives its line and byte.
-/

namespace Herbarium.Csv

/-- One record, and the text from its start on. -/
structure Record where
  fields : List String
  start : List Char

/-- Where in a field the next character stands. -/
inductive Place where
  /-- At the start of a field. -/
  | atStart
  /-- In a field without quotes, or after its closing quote. -/
  | plain
  /-- Between the quotes of a field. -/
  | quoted
  /-- After a quote in a quoted field. -/
  | afterQuote

def isLineEnd (c : Char) : Bool := c == '\r' || c == '\n'

/-- The field whose characters were read, last first. -/
def field (read : List Char) : String :=
  String.ofList (Text.trimChars read.reverse)

/-- Reads the rest of a record: its fields, and the text after the character that ends it. `read` holds the
characters of the current field and `fields` the fields before it, last first. -/
def readFields (place : Place) (read : List Char) (fields : List String) : List Char → List String × List Char
  | [] => ((field read :: fields).reverse, [])
  | c :: rest =>
    match place with
    | .quoted =>
      if c = '"' then readFields .afterQuote read fields rest else readFields .quoted (c :: read) fields rest
    | .atStart =>
      if c = '"' then readFields .quoted read fields rest
      else if c = ',' then readFields .atStart [] (field read :: fields) rest
      else if isLineEnd c then ((field read :: fields).reverse, rest)
      else readFields .plain (c :: read) fields rest
    | .afterQuote =>
      if c = '"' then readFields .quoted (c :: read) fields rest
      else if c = ',' then readFields .atStart [] (field read :: fields) rest
      else if isLineEnd c then ((field read :: fields).reverse, rest)
      else readFields .plain (c :: read) fields rest
    | .plain =>
      if c = ',' then readFields .atStart [] (field read :: fields) rest
      else if isLineEnd c then ((field read :: fields).reverse, rest)
      else readFields .plain (c :: read) fields rest

/-- Reads records to the end of the text; `read` holds those so far, last first. The bound on the steps is met by the
length of the text. -/
def readRecords : Nat → List Record → List Char → List Record
  | 0, read, _ => read.reverse
  | fuel + 1, read, cs =>
    match cs.dropWhile isLineEnd with
    | [] => read.reverse
    | text =>
      let (fields, rest) := readFields .atStart [] [] text
      readRecords fuel ({ fields, start := cs } :: read) rest

/-- A text without the byte order mark at its start. -/
def dropMark : List Char → List Char
  | c :: rest => if c.toNat = 0xFEFF then rest else c :: rest
  | [] => []

def records (source : String) : List Record :=
  let cs := dropMark source.toList
  readRecords (cs.length + 1) [] cs

/-- A record whose number of fields differs from the first record's. -/
structure Fault where
  /-- The number of the record, the first being zero. -/
  number : Nat
  start : List Char
  found : Nat
  expected : Nat

def Record.check (r : Record) (number expected : Nat) : Except Fault Unit :=
  if r.fields.length = expected then .ok ()
  else .error { number, start := r.start, found := r.fields.length, expected }

def lineFeeds (cs : List Char) : Nat :=
  cs.foldl (fun n c => if c = '\n' then n + 1 else n) 0

def Fault.message (f : Fault) (source : String) : String :=
  let line := 1 + lineFeeds source.toList - lineFeeds f.start
  let byte := source.utf8ByteSize - Text.byteLength f.start
  s!"CSV error: record {f.number} (line: {line}, byte: {byte}): found record with {f.found} fields, " ++
    s!"but the previous record has {f.expected} fields"

end Herbarium.Csv
