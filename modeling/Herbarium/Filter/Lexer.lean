import Herbarium.Filter.Basic
import Herbarium.Text.Offset

/-!
Tokens of a filter statement.

A lexer walks over the trimmed statement once. It looks for the first operator; what stands before is the column, what
stands after is the value, both trimmed, and neither may be empty. The word `in`, in any case, is an operator only
between two blank characters, which belong to it. Texts are cut at the bytes of the characters the lexer has come to;
a cut that is no boundary of characters is a fault of its own. After a fault or the value nothing is read any more.
-/

namespace Herbarium.Filter

inductive Token where
  | column (name : String)
  | operator (op : Operator)
  | value (text : String)
  deriving DecidableEq

namespace Token

/-- A token as a report shows it. -/
def text : Token → String
  | column name => name
  | operator op => op.symbol
  | value text => text

def column? : Token → Option String
  | column name => some name
  | operator _ | value _ => none

def operator? : Token → Option Operator
  | operator op => some op
  | column _ | value _ => none

def value? : Token → Option String
  | value text => some text
  | column _ | operator _ => none

end Token

/-- What a text holds from a byte on. -/
def sliceFrom (offset : Nat) (cs : List Char) : Except Fault (List Char) :=
  match Text.dropBytes? offset cs with
  | some rest => .ok rest
  | none => .error (.offBoundary offset (String.ofList cs))

/-- What a text holds before a byte. -/
def sliceTo (offset : Nat) (cs : List Char) : Except Fault (List Char) :=
  match Text.takeBytes? offset cs with
  | some before => .ok before
  | none => .error (.offBoundary offset (String.ofList cs))

/-- Whether a text of two bytes is the word `in`, in any case. -/
def isInWord (word : List Char) : Bool := word.map Text.asciiLower == ['i', 'n']

/-- The word `in` after a blank that starts a text and before another one, with its length in bytes. -/
def inAt (blank : Char) (rest : List Char) : Except Fault (Option (Operator × Nat)) :=
  match Text.slice? blank.utf8Size 2 rest with
  | none => .ok none
  | some word =>
    if isInWord word then do
      match ← sliceFrom (blank.utf8Size + 2) rest with
      | [] => return none
      | after :: _ =>
        return if Text.isBlank after then some (.isIn, blank.utf8Size + 2 + after.utf8Size) else none
    else .ok none

/-- The operator that starts a text, with its length in bytes. -/
def operatorAt (rest : List Char) : Except Fault (Option (Operator × Nat)) :=
  match rest with
  | [] => .ok none
  | '=' :: _ => .ok (some (.equal, 1))
  | '!' :: _ => do
    return if (← sliceFrom 1 rest).head? = some '=' then some (.notEqual, 2) else none
  | '<' :: _ => .ok (some (.lessThan, 1))
  | '>' :: _ => .ok (some (.greaterThan, 1))
  | c :: _ => if Text.isBlank c then inAt c rest else .ok none

/-- How far a lexer has come. -/
inductive Phase where
  | column
  | operator
  | value
  | done
  deriving DecidableEq

/-- A lexer: the trimmed statement, the characters not yet passed with the bytes they start at, and its phase. -/
structure Lexer where
  source : List Char
  ahead : List (Nat × Char)
  phase : Phase
  deriving DecidableEq

namespace Lexer

def start (statement : String) : Lexer :=
  let source := Text.trimChars statement.toList
  { source, ahead := Text.indices 0 source, phase := .column }

/-- Passes characters up to the first operator: the byte it stands at, and the characters from there on. -/
def seekOperator (source : List Char) : List (Nat × Char) → Except Fault (Option (Nat × List (Nat × Char)))
  | [] => .ok none
  | (offset, c) :: rest => do
    match ← operatorAt (← sliceFrom offset source) with
    | some _ => return some (offset, (offset, c) :: rest)
    | none => seekOperator source rest

def scanColumn (l : Lexer) : Except Fault (Token × Lexer) := do
  match ← seekOperator l.source l.ahead with
  | none => throw (.noOperator (String.ofList l.source))
  | some (offset, ahead) =>
    let column := Text.trimChars (← sliceTo offset l.source)
    if column = [] then throw (.noColumn (String.ofList l.source))
    return (.column (String.ofList column), { l with ahead, phase := .operator })

def scanOperator (l : Lexer) : Except Fault (Token × Lexer) :=
  match l.ahead with
  | [] => throw (.expectedOperator (String.ofList l.source))
  | (offset, _) :: _ => do
    match ← operatorAt (← sliceFrom offset l.source) with
    | none => throw (.expectedOperator (String.ofList l.source))
    | some (op, length) =>
      return (.operator op, { l with ahead := l.ahead.dropWhile fun p => p.1 < offset + length, phase := .value })

/-- What is left for the value. -/
def remainder (l : Lexer) : Except Fault (List Char) :=
  match l.ahead with
  | [] => .ok []
  | (offset, _) :: _ => sliceFrom offset l.source

def scanValue (l : Lexer) : Except Fault (Token × Lexer) := do
  let value := Text.trimChars (← l.remainder)
  if value = [] then throw (.noValue (String.ofList l.source))
  return (.value (String.ofList value), { l with phase := .done })

/-- Reads a token of the lexer's phase, none if it is done. -/
def scan (l : Lexer) : Option (Except Fault (Token × Lexer)) :=
  match l.phase with
  | .column => some l.scanColumn
  | .operator => some l.scanOperator
  | .value => some l.scanValue
  | .done => none

/-- The next token or fault if there is one, and the lexer after it. -/
def next (l : Lexer) : Option (Except Fault Token × Lexer) :=
  l.scan.map fun
    | .ok (token, l') => (.ok token, l')
    | .error f => (.error f, { l with phase := .done })

end Lexer

end Herbarium.Filter
