import Herbarium.Filter.Basic
import Herbarium.Text.Digit
import Herbarium.Value.Basic

/-!
Compiled filters.

A clause is the conjunction of one condition per filter. A condition compares a column with one value or asks whether
it is among several; the values were raw text in the filter and are coerced here. The SQL text of a clause holds
column names, operators and one placeholder per value, never a value: those are the clause's parameters, in the order
of the placeholders. Columns are admitted to the text only as identifiers or as integer literals.
-/

namespace Herbarium

/-- The two-sided comparisons. -/
inductive Comparison where
  | equal
  | notEqual
  | lessThan
  | greaterThan
  deriving DecidableEq

def Comparison.symbol : Comparison → String
  | .equal => "="
  | .notEqual => "!="
  | .lessThan => "<"
  | .greaterThan => ">"

/-- What a condition asks of its column. -/
inductive Test where
  | compare (op : Comparison) (operand : Value)
  | among (operands : List Value)
  deriving DecidableEq

structure Condition where
  column : String
  test : Test
  deriving DecidableEq

/-- The conjunction of conditions, of which there is at least one. -/
structure Clause where
  first : Condition
  others : List Condition
  deriving DecidableEq

namespace Test

def operands : Test → List Value
  | .compare _ v => [v]
  | .among vs => vs

end Test

/-- The text of a condition, with placeholders for its values. -/
def Condition.sql (c : Condition) : String :=
  match c.test with
  | .compare op _ => c.column ++ " " ++ op.symbol ++ " ?"
  | .among vs => c.column ++ " IN (" ++ String.intercalate "," (vs.map fun _ => "?") ++ ")"

namespace Clause

/-- What keeps filters from being compiled. -/
inductive Fault where
  | invalidColumn (name : String)
  deriving DecidableEq

def Fault.message : Fault → String
  | .invalidColumn name => s!"[Compiler] Invalid column name '{name}'"

/-- All conditions of a clause, in the order of the filters. -/
def conditions (c : Clause) : List Condition := c.first :: c.others

def sql (c : Clause) : String :=
  "WHERE " ++ String.intercalate " AND " (c.conditions.map Condition.sql)

/-- The values of the placeholders, in order. -/
def params (c : Clause) : List Value :=
  c.conditions.flatMap fun condition => condition.test.operands

def isNameStart (c : Char) : Bool := Text.isLetter c || c == '_'

def isNamePart (c : Char) : Bool := isNameStart c || Text.isDigit c

/-- An identifier: letters, digits and underscores, not starting with a digit. -/
def isIdentifier : List Char → Bool
  | [] => false
  | c :: cs => isNameStart c && cs.all isNamePart

/-- An integer literal: digits only. -/
def isLiteral (cs : List Char) : Bool :=
  !cs.isEmpty && cs.all Text.isDigit

/-- Whether a column is admitted to the text of a clause. -/
def admits (column : String) : Bool :=
  isIdentifier column.toList || isLiteral column.toList

def splitCommas (cs : List Char) : List (List Char) :=
  cs.splitOn ','

/-- The characters that may surround a piece of a value list. -/
def isWrapper (c : Char) : Bool := c == '\'' || c == '"' || c == '(' || c == ')'

/-- The pieces of a value list: the parts between commas without blanks, quotes and parentheses around them. -/
def pieces (value : String) : List String :=
  (splitCommas value.toList).map fun part =>
    String.ofList (Text.trimChars (Text.trimMatches isWrapper (Text.trimChars part)))

def testOf (f : Filter) : Test :=
  match f.operator with
  | .equal => .compare .equal (.coerce f.value)
  | .notEqual => .compare .notEqual (.coerce f.value)
  | .lessThan => .compare .lessThan (.coerce f.value)
  | .greaterThan => .compare .greaterThan (.coerce f.value)
  | .isIn => .among ((pieces f.value).map Value.coerce)

/-- The condition of a filter, if its column is admitted. -/
def conditionOf (f : Filter) : Except Fault Condition :=
  if admits f.column then .ok { column := f.column, test := testOf f }
  else .error (.invalidColumn f.column)

/-- Compiles filters; without filters there is no clause. -/
def compile (filters : List Filter) : Except Fault (Option Clause) := do
  match ← filters.mapM conditionOf with
  | [] => return none
  | first :: others => return some { first, others }

end Clause

end Herbarium
