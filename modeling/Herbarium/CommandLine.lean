import Herbarium.Port

/-!
The command line.

A line is read from left to right. An option has a long name, and some a letter; its value is attached to it or is the
next word, if that does not start with a dash. An option is given once, names are written in full, and nothing but
options is taken. Asking for help or for the version ends the reading at once, and so does the first fault.
-/

namespace Herbarium

/-- What a line of options sets. -/
structure CommandLine where
  /-- The path of a file of settings. -/
  config : Option String := none
  host : Option String := none
  port : Option Port := none
  /-- The path of the database. -/
  database : Option String := none
  deriving DecidableEq

namespace CommandLine

inductive Setting where
  | config
  | host
  | port
  | database
  deriving DecidableEq

/-- A name on the line: of an option with a value, or of one that asks for a text. -/
inductive Name where
  | setting (s : Setting)
  | help
  | version
  deriving DecidableEq

/-- The name a word of letters stands for. -/
def Name.ofWord? (word : List Char) : Option Name :=
  match String.ofList word with
  | "config" => some (.setting .config)
  | "host" => some (.setting .host)
  | "port" => some (.setting .port)
  | "database" => some (.setting .database)
  | "help" => some .help
  | "version" => some .version
  | _ => none

def Name.ofLetter? (letter : Char) : Option Name :=
  match letter with
  | 'c' => some (.setting .config)
  | 'p' => some (.setting .port)
  | 'd' => some (.setting .database)
  | 'h' => some .help
  | 'V' => some .version
  | _ => none

/-- The line with a value set, if it was not set before and the value reads. A path is not empty. -/
def set? (line : CommandLine) (s : Setting) (value : String) : Option CommandLine :=
  match s with
  | .config => if line.config.isSome ∨ value = "" then none else some { line with config := some value }
  | .host => if line.host.isSome then none else some { line with host := some value }
  | .port =>
    if line.port.isSome then none
    else (Port.readSigned? value).map fun port => { line with port := some port }
  | .database => if line.database.isSome ∨ value = "" then none else some { line with database := some value }

/-- How a word of the line is taken. -/
inductive Word where
  /-- Two dashes. -/
  | endOfOptions
  /-- A name, and the value attached to it. -/
  | named (name : Option Name) (attached : Option String)
  /-- A word that can be a value. -/
  | plain
  deriving DecidableEq

/-- The value attached to a letter, with or without an equals sign. -/
def attachedTo : List Char → Option String
  | [] => none
  | '=' :: value => some (String.ofList value)
  | value => some (String.ofList value)

/-- How a word is taken. A letter that asks for a text makes what follows it in the word immaterial. -/
def Word.of (word : String) : Word :=
  match word.toList with
  | ['-', '-'] => endOfOptions
  | '-' :: '-' :: cs =>
    match cs.span (· != '=') with
    | (name, '=' :: value) => named (Name.ofWord? name) (some (String.ofList value))
    | (name, _) => named (Name.ofWord? name) none
  | '-' :: letter :: cs =>
    match Name.ofLetter? letter with
    | some (.setting s) => named (some (.setting s)) (attachedTo cs)
    | other => named other none
  | _ => plain

/-- What a line comes to. -/
inductive Outcome where
  | run (line : CommandLine)
  | help
  | version
  | refused
  deriving DecidableEq

/-- Reads words after those read so far. -/
def readAfter (line : CommandLine) : List String → Outcome
  | [] => .run line
  | word :: rest =>
    match Word.of word with
    | .plain => .refused
    | .endOfOptions => if rest.isEmpty then .run line else .refused
    | .named (some .help) none => .help
    | .named (some .version) none => .version
    | .named (some (.setting s)) (some value) =>
      match line.set? s value with
      | some line => readAfter line rest
      | none => .refused
    | .named (some (.setting s)) none =>
      match rest with
      | [] => .refused
      | value :: rest =>
        if Word.of value ≠ .plain then .refused
        else match line.set? s value with
          | some line => readAfter line rest
          | none => .refused
    | .named _ _ => .refused

def read (words : List String) : Outcome := readAfter {} words

def versionNumber : String := "0.1.0"

def versionText : String := "irisdb " ++ versionNumber

def helpText : String :=
  String.intercalate "\n" [
    "HTTP service storing the Iris dataset in SQLite",
    "",
    "Usage: irisdb [OPTIONS]",
    "",
    "Options:",
    "  -c, --config <CONFIG>      TOML configuration file",
    "      --host <HOST>          Host to bind to",
    "  -p, --port <PORT>          Port to listen on",
    "  -d, --database <DATABASE>  SQLite database file",
    "  -h, --help                 Print help",
    "  -V, --version              Print version"]

end CommandLine

end Herbarium
