import Herbarium.Text.Blank

/-!
Filter statements.

A filter restricts one column by one operator and a value kept as raw text: what type the value has is decided where
it is compared. A filter has one written form, `column operator value`.
-/

namespace Herbarium

inductive Operator where
  | equal
  | notEqual
  | lessThan
  | greaterThan
  | isIn
  deriving DecidableEq

/-- The operator as a statement writes it. -/
def Operator.symbol : Operator → String
  | .equal => "="
  | .notEqual => "!="
  | .lessThan => "<"
  | .greaterThan => ">"
  | .isIn => "IN"

/-- One restriction: column, operator and raw value. -/
structure Filter where
  column : String
  operator : Operator
  value : String
  deriving DecidableEq

namespace Filter

/-- The written form of a filter. -/
def render (f : Filter) : String :=
  f.column ++ " " ++ f.operator.symbol ++ " " ++ f.value

/-- What keeps a statement from being a filter. The faults of the text name the trimmed statement, those of the order
of its tokens the token that is out of place. -/
inductive Fault where
  | noOperator (source : String)
  | noColumn (source : String)
  | noValue (source : String)
  /-- The text goes on with no operator where one was seen. -/
  | expectedOperator (source : String)
  /-- A token of another kind than the one that is due. -/
  | unexpectedKind (due token : String)
  /-- A token after the value. -/
  | unexpectedToken (token : String)
  /-- No token where one is due. -/
  | unexpectedEnd
  /-- A position at which the text cannot be cut. -/
  | offBoundary (offset : Nat) (source : String)
  deriving DecidableEq

def Fault.message : Fault → String
  | .noOperator source => s!"[Lexer] No operator (=, !=, <, >, IN) found in '{source}'"
  | .noColumn source => s!"[Lexer] No column name before operator in '{source}'"
  | .noValue source => s!"[Lexer] No value after operator in '{source}'"
  | .expectedOperator source => s!"[Lexer] Expected operator in '{source}'"
  | .unexpectedKind due token => s!"[Parser] Expected {due}, got token {token}"
  | .unexpectedToken token => s!"[Parser] Unexpected token {token}"
  | .unexpectedEnd => "[Parser] Unexpected end of input"
  | .offBoundary offset source => s!"byte index {offset} is not a char boundary of '{source}'"

end Filter

end Herbarium
