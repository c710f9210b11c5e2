import Herbarium.Json.Basic
import Herbarium.Json.Number
import Herbarium.Text.Digit
import Herbarium.Text.Offset

/-!
Reading JSON text.

`parse` reads one value that takes up the whole text. A fault says what was expected and how many bytes of the text
were unread when it was found; `Fault.message` turns that into a line and a column, the column counting bytes. Most
faults are found by looking at the next byte and count it as read.

Integers that fit 64 bits, signed or unsigned, stay integers; the negative zero and all other numbers become binary64
numbers, and one out of range is a fault. Brackets may nest 127 deep.
-/

namespace Herbarium.Json

/-- What was wrong with a text. -/
inductive FaultKind where
  | endInList
  | endInObject
  | endInString
  | endInValue
  | expectedColon
  | expectedListCommaOrEnd
  | expectedObjectCommaOrEnd
  | expectedWord
  | expectedValue
  | invalidEscape
  | invalidNumber
  | numberOutOfRange
  | controlCharacter
  | keyNotString
  | loneSurrogate
  | trailingComma
  | trailingCharacters
  | endOfEscape
  | tooDeep
  deriving DecidableEq

def FaultKind.message : FaultKind → String
  | endInList => "EOF while parsing a list"
  | endInObject => "EOF while parsing an object"
  | endInString => "EOF while parsing a string"
  | endInValue => "EOF while parsing a value"
  | expectedColon => "expected `:`"
  | expectedListCommaOrEnd => "expected `,` or `]`"
  | expectedObjectCommaOrEnd => "expected `,` or `\x7d`"
  | expectedWord => "expected ident"
  | expectedValue => "expected value"
  | invalidEscape => "invalid escape"
  | invalidNumber => "invalid number"
  | numberOutOfRange => "number out of range"
  | controlCharacter => "control character (\\u0000-\\u001F) found while parsing a string"
  | keyNotString => "key must be a string"
  | loneSurrogate => "lone leading surrogate in hex escape"
  | trailingComma => "trailing comma"
  | trailingCharacters => "trailing characters"
  | endOfEscape => "unexpected end of hex escape"
  | tooDeep => "recursion limit exceeded"

/-- What was wrong, and how many bytes were unread. -/
structure Fault where
  kind : FaultKind
  unread : Nat
  deriving DecidableEq

/-- A fault found with this text unread. -/
def faultAt {α : Type} (kind : FaultKind) (cs : List Char) : Except Fault α :=
  .error { kind, unread := Text.byteLength cs }

/-- A fault found at the next byte of a text, or at its end. -/
def faultNext {α : Type} (kind : FaultKind) (cs : List Char) : Except Fault α :=
  .error { kind, unread := Text.byteLength cs - 1 }

/-- Line and column after a count of bytes: lines count from one, columns count the bytes since the last line
feed. -/
def position : List Char → Nat → Nat → Nat → Nat × Nat
  | [], _, line, column => (line, column)
  | c :: cs, count, line, column =>
    if count = 0 then (line, column)
    else if count < c.utf8Size then (line, column + count)
    else if c = '\n' then position cs (count - 1) (line + 1) 0
    else position cs (count - c.utf8Size) line (column + c.utf8Size)

def Fault.message (f : Fault) (source : String) : String :=
  let (line, column) := position source.toList (source.utf8ByteSize - f.unread) 1 0
  s!"{f.kind.message} at line {line} column {column}"

def isJsonBlank (c : Char) : Bool := c == ' ' || c == '\n' || c == '\t' || c == '\r'

def skipBlanks (cs : List Char) : List Char := cs.dropWhile isJsonBlank

def readWord : List Char → List Char → Except Fault (List Char)
  | [], cs => .ok cs
  | w :: ws, c :: cs => if c = w then readWord ws cs else faultNext .expectedWord (c :: cs)
  | _ :: _, [] => faultAt .endInValue []

/-! Numbers. -/

/-- Reads the rest of an exponent's digits. When `limited`, the exponent may not pass 2³¹ - 1. -/
def readExponentDigits (limited : Bool) (e : Nat) : List Char → Except Fault (Nat × List Char)
  | [] => .ok (e, [])
  | c :: cs =>
    match Decimal.digitValue? c with
    | none => .ok (e, c :: cs)
    | some d =>
      if limited && 2147483647 < 10 * e + d then faultAt .numberOutOfRange cs
      else readExponentDigits limited (10 * e + d) cs

/-- Reads what follows the letter of an exponent. -/
def readExponent (nonzero : Bool) (cs : List Char) : Except Fault (Int × List Char) :=
  let (negative, cs) := Decimal.spanSign cs
  match cs with
  | [] => faultAt .endInValue []
  | c :: rest =>
    match Decimal.digitValue? c with
    | none => faultNext .invalidNumber (c :: rest)
    | some d => do
      let (e, rest) ← readExponentDigits (nonzero && !negative) d rest
      return (if negative then -(e : Int) else e, rest)

/-- A number that is not kept as an integer. -/
def realOf (negative : Bool) (d : Decimal) (rest : List Char) : Except Fault (Json × List Char) :=
  match scaledRank? d with
  | some rank => .ok (real (Binary64.ofRank negative rank), rest)
  | none => faultAt .numberOutOfRange rest

/-- An integer of 64 bits, kept unless it is a negative one out of range or the negative zero. -/
def integerOf (negative : Bool) (n : Nat) : Json :=
  if negative then
    if 0 < n ∧ n ≤ 0x8000000000000000 then integer (-(n : Int)) else real (Binary64.ofRatio true n 1)
  else integer n

/-- A number without an exponent. -/
def unscaled (negative : Bool) (whole fraction rest : List Char) : Except Fault (Json × List Char) :=
  let d := collect whole fraction
  if fraction = [] ∧ d.exponent = 0 then .ok (integerOf negative d.coefficient, rest) else realOf negative d rest

/-- Reads the exponent, if any, after the digits of a number. -/
def readScale (negative : Bool) (whole fraction rest : List Char) : Except Fault (Json × List Char) :=
  match rest with
  | c :: after =>
    if c = 'e' ∨ c = 'E' then do
      let d := collect whole fraction
      let (e, after) ← readExponent (d.coefficient != 0) after
      realOf negative { d with exponent := d.exponent + e } after
    else unscaled negative whole fraction rest
  | [] => unscaled negative whole fraction []

/-- Reads the fraction, if any, after the whole digits of a number. -/
def readFraction (negative : Bool) (whole : List Char) : List Char → Except Fault (Json × List Char)
  | '.' :: after =>
    match Decimal.spanDigits after with
    | ([], []) => faultAt .endInValue []
    | ([], rest) => faultNext .invalidNumber rest
    | (fraction, rest) => readScale negative whole fraction rest
  | rest => readScale negative whole [] rest

/-- Reads a number after its sign. A leading zero stands alone. -/
def readNumber (negative : Bool) (cs : List Char) : Except Fault (Json × List Char) :=
  match Decimal.spanDigits cs with
  | ([], []) => faultAt .endInValue []
  | ([], rest) => faultNext .invalidNumber rest
  | ('0' :: [], rest) => readFraction negative ['0'] rest
  | ('0' :: more, rest) => faultNext .invalidNumber (more ++ rest)
  | (whole, rest) => readFraction negative whole rest

/-! Strings. -/

def hexValues? : List Char → Option Nat
  | [a, b, c, d] => do
    let a ← Text.hexValue? a
    let b ← Text.hexValue? b
    let c ← Text.hexValue? c
    let d ← Text.hexValue? d
    return ((a * 16 + b) * 16 + c) * 16 + d
  | _ => none

def readHex (cs : List Char) : Except Fault (Nat × List Char) :=
  if Text.byteLength (cs.take 4) < 4 then .error { kind := .endInString, unread := 0 }
  else match hexValues? (cs.take 4) with
    | some n => .ok (n, cs.drop 4)
    | none => .error { kind := .invalidEscape, unread := Text.byteLength cs - 4 }

/-- Reads what follows `\u`: one unit, or a leading surrogate and the escape of a trailing one. -/
def readUnit (cs : List Char) : Except Fault (Char × List Char) := do
  let (n, rest) ← readHex cs
  if 0xDC00 ≤ n ∧ n ≤ 0xDFFF then faultAt .loneSurrogate rest
  else if n < 0xD800 ∨ 0xDBFF < n then return (Char.ofNat n, rest)
  else match rest with
    | [] => faultAt .endInString []
    | '\\' :: [] => faultAt .endInString []
    | '\\' :: 'u' :: rest => do
      let (m, rest) ← readHex rest
      if m < 0xDC00 ∨ 0xDFFF < m then faultAt .loneSurrogate rest
      else return (Char.ofNat (0x10000 + (n - 0xD800) * 0x400 + (m - 0xDC00)), rest)
    | '\\' :: rest => faultNext .endOfEscape rest
    | rest => faultNext .endOfEscape rest

/-- Reads what follows a backslash. -/
def readEscape : List Char → Except Fault (Char × List Char)
  | [] => faultAt .endInString []
  | c :: rest =>
    if c = '"' ∨ c = '\\' ∨ c = '/' then .ok (c, rest)
    else if c = 'b' then .ok (Char.ofNat 8, rest)
    else if c = 'f' then .ok (Char.ofNat 12, rest)
    else if c = 'n' then .ok ('\n', rest)
    else if c = 'r' then .ok ('\r', rest)
    else if c = 't' then .ok ('\t', rest)
    else if c = 'u' then readUnit rest
    else faultNext .invalidEscape (c :: rest)

/-- Reads the rest of a string after its opening quote; `read` holds the characters so far, last first. The bound
on the steps is met by the length of the text. -/
def readString : Nat → List Char → List Char → Except Fault (String × List Char)
  | 0, _, _ => faultAt .endInString []
  | fuel + 1, read, cs =>
    match cs with
    | [] => faultAt .endInString []
    | c :: rest =>
      if c = '"' then .ok (String.ofList read.reverse, rest)
      else if c = '\\' then
        match readEscape rest with
        | .ok (e, rest) => readString fuel (e :: read) rest
        | .error f => .error f
      else if c.toNat < 32 then faultNext .controlCharacter (c :: rest)
      else readString fuel (c :: read) rest

/-- Reads a string after its opening quote. -/
def readText (cs : List Char) : Except Fault (String × List Char) :=
  readString (cs.length + 1) [] cs

/-! Arrays, objects and values. -/

/-- A reader of one value at the front of a text. -/
abbrev Reader := List Char → Except Fault (Json × List Char)

/-- Reads elements up to the closing bracket; `read` holds those so far, last first. -/
def readElements (value : Reader) : Nat → List Json → List Char → Except Fault (Json × List Char)
  | 0, _, _ => faultAt .endInList []
  | fuel + 1, read, cs =>
    match value cs with
    | .error f => .error f
    | .ok (v, rest) =>
      match skipBlanks rest with
      | ']' :: rest => .ok (array (v :: read).reverse, rest)
      | ',' :: rest =>
        match skipBlanks rest with
        | [] => faultAt .endInValue []
        | ']' :: rest => faultNext .trailingComma (']' :: rest)
        | rest => readElements value fuel (v :: read) rest
      | [] => faultAt .endInList []
      | rest => faultNext .expectedListCommaOrEnd rest

def readArray (value : Reader) (cs : List Char) : Except Fault (Json × List Char) :=
  match skipBlanks cs with
  | [] => faultAt .endInList []
  | ']' :: rest => .ok (array [], rest)
  | rest => readElements value rest.length [] rest

/-- Reads a key, its colon and its value. -/
def readMember (value : Reader) (cs : List Char) : Except Fault ((String × Json) × List Char) :=
  match cs with
  | '"' :: rest => do
    let (key, rest) ← readText rest
    match skipBlanks rest with
    | ':' :: rest => do
      let (v, rest) ← value (skipBlanks rest)
      return ((key, v), rest)
    | [] => faultAt .endInObject []
    | rest => faultNext .expectedColon rest
  | rest => faultNext .keyNotString rest

/-- Reads members up to the closing brace; `read` holds those so far, last first. -/
def readMembers (value : Reader) : Nat → List (String × Json) → List Char → Except Fault (Json × List Char)
  | 0, _, _ => faultAt .endInObject []
  | fuel + 1, read, cs =>
    match readMember value cs with
    | .error f => .error f
    | .ok (m, rest) =>
      match skipBlanks rest with
      | '}' :: rest => .ok (object (orderedMembers (m :: read).reverse), rest)
      | ',' :: rest =>
        match skipBlanks rest with
        | [] => faultAt .endInValue []
        | '}' :: rest => faultNext .trailingComma ('}' :: rest)
        | rest => readMembers value fuel (m :: read) rest
      | [] => faultAt .endInObject []
      | rest => faultNext .expectedObjectCommaOrEnd rest

def readObject (value : Reader) (cs : List Char) : Except Fault (Json × List Char) :=
  match skipBlanks cs with
  | [] => faultAt .endInObject []
  | '}' :: rest => .ok (object [], rest)
  | rest => readMembers value rest.length [] rest

/-- Reads a value whose brackets nest less deep than a bound. -/
def readValue : Nat → Reader
  | 0, cs => faultNext .tooDeep cs
  | depth + 1, cs =>
    match skipBlanks cs with
    | [] => faultAt .endInValue []
    | 'n' :: rest => (readWord ['u', 'l', 'l'] rest).map fun rest => (null, rest)
    | 't' :: rest => (readWord ['r', 'u', 'e'] rest).map fun rest => (bool true, rest)
    | 'f' :: rest => (readWord ['a', 'l', 's', 'e'] rest).map fun rest => (bool false, rest)
    | '-' :: rest => readNumber true rest
    | '"' :: rest => (readText rest).map fun (s, rest) => (string s, rest)
    | '[' :: rest => if depth = 0 then faultNext .tooDeep ('[' :: rest) else readArray (readValue depth) rest
    | '{' :: rest => if depth = 0 then faultNext .tooDeep ('{' :: rest) else readObject (readValue depth) rest
    | c :: rest =>
      if (Decimal.digitValue? c).isSome then readNumber false (c :: rest) else faultNext .expectedValue (c :: rest)

def depthLimit : Nat := 128

/-- Reads a value at the front of a text. -/
def readFirst (source : String) : Except Fault (Json × List Char) :=
  readValue depthLimit source.toList

/-- Checks that nothing but blanks is left. -/
def endOfText (cs : List Char) : Except Fault Unit :=
  match skipBlanks cs with
  | [] => .ok ()
  | rest => faultNext .trailingCharacters rest

/-- Reads a value that takes up the whole text. -/
def parse (source : String) : Except Fault Json := do
  let (v, rest) ← readFirst source
  endOfText rest
  return v

end Herbarium.Json
