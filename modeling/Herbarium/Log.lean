import Herbarium.Text.Blank
import Herbarium.Decimal.Reader

/-!
Which messages are logged.

A rule lets messages through up to a level. It holds for all messages or for those of the parts whose name starts with
its target, and it may ask for a span or for fields. Of the rules that hold for a message the most particular one
decides, and of equally particular ones the last. Where there are no rules, only errors are logged.

The messages of a start are of level `info`, come from the part `irisdb`, stand in no span and have one field, their
text.
-/

namespace Herbarium.Log

/-- A level, from nothing on to everything. -/
inductive Level where
  | off
  | error
  | warn
  | info
  | debug
  | trace
  deriving DecidableEq

namespace Level

/-- How much a level lets through. -/
def rank : Level → Nat
  | off => 0
  | error => 1
  | warn => 2
  | info => 3
  | debug => 4
  | trace => 5

def all : List Level := [off, error, warn, info, debug, trace]

def name : Level → String
  | off => "off"
  | error => "error"
  | warn => "warn"
  | info => "info"
  | debug => "debug"
  | trace => "trace"

/-- The number a text of digits writes, with or without a plus sign. -/
def number? (s : String) : Option Nat :=
  let ds := match s.toList with
    | '+' :: ds => ds
    | ds => ds
  match Decimal.spanDigits ds with
  | ([], _) => none
  | (ds, []) => some (Decimal.valueOfDigits ds)
  | _ => none

/-- Reads a level: its number, or its name in any case. -/
def read? (s : String) : Option Level :=
  match number? s with
  | some n => all.find? fun l => l.rank == n
  | none => all.find? fun l => Text.sameFolded l.name s

end Level

structure Rule where
  target : Option String
  /-- The name of the span it asks for. -/
  span : Option String
  /-- The fields it asks for, each with or without a value. -/
  fields : List String
  level : Level
  deriving DecidableEq

namespace Rule

/-- Why a text is no rule. -/
inductive Fault where
  | invalid
  | level
  deriving DecidableEq

def Fault.message : Fault → String
  | .invalid => "invalid filter directive"
  | .level =>
    "error parsing level filter: expected one of \"off\", \"error\", \"warn\", \"info\", \"debug\", \"trace\", or a number 0-5"

/-- Whether a character can start a rule that does not start with a span. -/
def startsName (c : Char) : Bool :=
  c.isAlphanum || c == '-' || c == ':' || c == '_' || 0x80 ≤ c.toNat

/-- Reads the level after an equals sign; no text is the highest one. -/
def readLevel (cs : List Char) : Except Fault Level :=
  if cs.isEmpty then .ok .trace
  else match Level.read? (String.ofList cs) with
    | some l => .ok l
    | none => .error .level

/-- Reads what follows a span: nothing, or a level. -/
def readAfterSpan (target span : Option String) (fields : List String) : List Char → Except Fault Rule
  | [] => .ok { target, span, fields, level := .trace }
  | '=' :: cs => return { target, span, fields, level := ← readLevel cs }
  | _ => .error .invalid

/-- Reads a span after its opening bracket. -/
def readSpan (target : Option String) (cs : List Char) : Except Fault Rule :=
  match cs.span fun c => c != ']' && c != '\x7b' with
  | (name, ']' :: rest) => readAfterSpan target (some (String.ofList name)) [] rest
  | (name, _ :: rest) =>
    let span := if name.isEmpty then none else some (String.ofList name)
    match rest.span (· != '\x7d') with
    | (field, _ :: ']' :: rest) =>
      if field.isEmpty then .error .invalid else readAfterSpan target span [String.ofList field] rest
    | _ => .error .invalid
  | (_, []) => .error .invalid

/-- Reads a rule. A name by itself is a level if it is the name of one, else a target. -/
def read (s : String) : Except Fault Rule :=
  match s.toList.dropWhile Text.isBlank with
  | [] => .error .invalid
  | '[' :: rest => readSpan none rest
  | c :: _ =>
    if !startsName c then .error .invalid
    else match s.toList.span fun c => c != '=' && c != '[' with
      | (target, '=' :: rest) =>
        return { target := some (String.ofList target), span := none, fields := [], level := ← readLevel rest }
      | (target, _ :: rest) => readSpan (some (String.ofList target)) rest
      | (_, []) =>
        match Level.read? s with
        | some level => .ok { target := none, span := none, fields := [], level }
        | none => .ok { target := some s, span := none, fields := [], level := .trace }

/-- Whether a rule holds for the messages of a start. -/
def holdsForStart (r : Rule) : Bool :=
  r.span.isNone && r.fields.all (· == "message") &&
    match r.target with
    | none => true
    | some t => t.toList.isPrefixOf "irisdb".toList

/-- Whether a rule is at least as particular as another: by the length of its target, then by its fields. -/
def asParticular (r s : Rule) : Bool :=
  let size := fun (r : Rule) => match r.target with
    | none => 0
    | some t => t.utf8ByteSize + 1
  size s < size r || (size s == size r && s.fields.length ≤ r.fields.length)

end Rule

def split (s : String) : List String :=
  ((s.toList.splitOn ',').map String.ofList).filter fun s => !s.isEmpty

/-- Reads a list of rules, all of which must read. -/
def readRules (s : String) : Except Rule.Fault (List Rule) := (split s).mapM Rule.read

/-- Reads a list of rules without those that do not read, each of which is reported. -/
def readSome (s : String) : List Rule × List String :=
  (split s).foldr (fun text (rules, reports) =>
    match Rule.read text with
    | .ok r => (r :: rules, reports)
    | .error f => (rules, ("ignoring `" ++ text ++ "`: " ++ f.message) :: reports)) ([], [])

/-- Whether rules let the messages of a start through. -/
def admitsStart (rules : List Rule) : Bool :=
  let deciding := (rules.filter Rule.holdsForStart).foldl (fun (best : Option Rule) r =>
    match best with
    | none => some r
    | some b => if r.asParticular b then some r else some b) none
  match deciding with
  | some r => Level.info.rank ≤ r.level.rank
  | none => false

/-- Whether the messages of a start are logged, and the reports of rules that do not read: by the rules of the
environment if there are any and they all read, else by the level of the settings. -/
def forStart (given : Option String) (level : String) : Bool × List String :=
  match given.map readRules with
  | some (.ok rules) => (admitsStart rules, [])
  | _ =>
    let (rules, reports) := readSome (Text.asciiFold level)
    (admitsStart rules, reports)

end Herbarium.Log
