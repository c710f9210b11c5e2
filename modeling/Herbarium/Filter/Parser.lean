import Herbarium.Filter.Lexer

/-!
Reading filter statements.

A statement is a column, an operator and a value, in this order, and nothing after them. Its tokens come from a lexer;
the first fault, of the lexer or of the order of the tokens, is the fault of the statement.
-/

namespace Herbarium.Filter

/-- Reads a token of the kind that is due. -/
def readToken {α : Type} (due : String) (pick : Token → Option α) (l : Lexer) : Except Fault (α × Lexer) :=
  match l.next with
  | none => .error .unexpectedEnd
  | some (.error f, _) => .error f
  | some (.ok token, l) =>
    match pick token with
    | some a => .ok (a, l)
    | none => .error (.unexpectedKind due token.text)

/-- Checks that no token is left. -/
def checkEnd (l : Lexer) : Except Fault Unit :=
  match l.next with
  | none => .ok ()
  | some (.error f, _) => .error f
  | some (.ok token, _) => .error (.unexpectedToken token.text)

def parse (statement : String) : Except Fault Filter := do
  let (column, l) ← readToken "column" Token.column? (Lexer.start statement)
  let (operator, l) ← readToken "operator" Token.operator? l
  let (value, l) ← readToken "value" Token.value? l
  checkEnd l
  return { column, operator, value }

/-- Reads statements up to the first that is no filter. -/
def parseAll (statements : List String) : Except Fault (List Filter) :=
  statements.mapM parse

end Herbarium.Filter
