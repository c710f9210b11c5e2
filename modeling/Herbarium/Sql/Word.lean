import Herbarium.Text.Blank
import Herbarium.Text.Digit

/-!
The words of SQL.

Some words can never be names. Of those and a few that can, five start an expression of their own kind, so that a
comparison after them is out of place. A name is plain if it is made of ASCII letters, digits and underscores, does not
start with a digit and is none of the words that are read differently somewhere.
-/

namespace Herbarium.Sql

/-- The words that cannot be names, in lower case. -/
def reservedWords : List String :=
  ["add", "all", "alter", "and", "as", "autoincrement", "between", "case", "check", "collate", "commit", "constraint",
   "create", "default", "deferrable", "delete", "distinct", "drop", "else", "escape", "except", "exists", "foreign",
   "from", "group", "having", "in", "index", "insert", "intersect", "into", "is", "isnull", "join", "limit", "not",
   "nothing", "notnull", "null", "on", "or", "order", "primary", "references", "returning", "select", "set", "table",
   "then", "to", "transaction", "union", "unique", "update", "using", "values", "when", "where"]

/-- The words that start an expression and need more than a comparison after them. -/
def openingWords : List String := ["case", "cast", "exists", "not", "raise"]

/-- The words that stand for the time of day in an expression. -/
def clockWords : List String := ["current_date", "current_time", "current_timestamp"]

/-- The words before the columns of a query. -/
def quantifierWords : List String := ["all", "distinct"]

/-- The words that start a constraint where a column might stand and then need more than a type. -/
def constraintWords : List String := ["check", "foreign", "primary", "unique"]

def isReserved (word : String) : Bool := Text.asciiFold word ∈ reservedWords

def isOpening (word : String) : Bool := Text.asciiFold word ∈ openingWords

def isClock (word : String) : Bool := Text.asciiFold word ∈ clockWords

/-- A character that may start a name: letters, the underscore and all beyond ASCII. -/
def isWordStart (c : Char) : Bool :=
  Text.isLetter c || c == '_' || 128 ≤ c.toNat

/-- A character that may continue a name. -/
def isWordPart (c : Char) : Bool := isWordStart c || Text.isDigit c || c == '$'

/-- Whether a name consists of ASCII letters, digits and underscores and starts with no digit. -/
def isIdentifier (name : String) : Bool :=
  match name.toList with
  | [] => false
  | c :: cs => (isWordStart c && c.toNat < 128) && cs.all fun c => isWordPart c && c.toNat < 128 && c != '$'

/-- Whether a name is read as a name wherever one may stand. -/
def isPlain (name : String) : Bool :=
  isIdentifier name &&
    !(isReserved name || isOpening name || isClock name || Text.asciiFold name == "if")

end Herbarium.Sql
