import Herbarium.Sql.Word
import Herbarium.Text.Offset

/-!
Tokens of a statement.

A statement is cut into words, quoted names, numbers, bytes, parameters and symbols; blanks and comments lie between them.
Every token keeps its text as written and the byte it starts at. Characters that start no token, a quote that is not
closed and a number that runs into letters are illegal tokens.
-/

namespace Herbarium.Sql

inductive TokenKind where
  | word
  /-- A name in quotes or brackets, without them. -/
  | quoted (name : String)
  | number
  /-- Bytes in hexadecimal digits. -/
  | bytes
  | parameter
  | symbol
  | illegal
  deriving DecidableEq

/-- A token, its text as written and the byte it starts at. -/
structure Token where
  kind : TokenKind
  raw : String
  offset : Nat
  deriving DecidableEq

def isSpace (c : Char) : Bool :=
  c == ' ' || c == '\t' || c == '\n' || c == '\r' || c.toNat == 12 || c.toNat == 0xFEFF

/-- What stands in quotes, up to a closing quote; a doubled quote stands for one. `read` holds the characters so far
and `taken` those as written, last first. -/
def readQuoted (quote : Char) (read taken : List Char) : List Char → Option (List Char × List Char × List Char)
  | [] => none
  | [c] => if c = quote then some (read.reverse, (c :: taken).reverse, []) else none
  | c :: d :: rest =>
    if c = quote then
      if d = quote then readQuoted quote (c :: read) (d :: c :: taken) rest
      else some (read.reverse, (c :: taken).reverse, d :: rest)
    else readQuoted quote (c :: read) (c :: taken) (d :: rest)

def readBracketed (read : List Char) : List Char → Option (List Char × List Char)
  | [] => none
  | c :: rest => if c = ']' then some (read.reverse, rest) else readBracketed (c :: read) rest

/-- A number at the front of a text, an exponent included, and the rest. -/
def spanNumber (cs : List Char) : List Char × List Char :=
  let (whole, rest) := cs.span Text.isDigit
  let (fraction, rest) := match rest with
    | '.' :: more => let (ds, rest) := more.span Text.isDigit; ('.' :: ds, rest)
    | rest => ([], rest)
  let (exponent, rest) := match rest with
    | e :: s :: d :: more =>
      if (e = 'e' ∨ e = 'E') ∧ (s = '+' ∨ s = '-') ∧ Text.isDigit d then
        let (ds, rest) := more.span Text.isDigit
        (e :: s :: d :: ds, rest)
      else if (e = 'e' ∨ e = 'E') ∧ Text.isDigit s then
        let (ds, rest) := (d :: more).span Text.isDigit
        (e :: s :: ds, rest)
      else ([], rest)
    | [e, s] => if (e = 'e' ∨ e = 'E') ∧ Text.isDigit s then ([e, s], []) else ([], rest)
    | rest => ([], rest)
  (whole ++ fraction ++ exponent, rest)

/-- A number in hexadecimal or decimal digits at the front of a text, and the rest. -/
def spanLiteral : List Char → List Char × List Char
  | '0' :: x :: d :: rest =>
    if (x = 'x' ∨ x = 'X') ∧ Text.isHexDigit d then
      let (ds, rest) := rest.span Text.isHexDigit
      ('0' :: x :: d :: ds, rest)
    else spanNumber ('0' :: x :: d :: rest)
  | cs => spanNumber cs

/-- The bytes in quotes that follow a letter, up to a closing quote: whether they are pairs of hexadecimal digits, and
what they are as written. -/
def spanBytes (rest : List Char) : Bool × List Char × List Char :=
  let (ds, rest) := rest.span (· != '\'')
  (ds.all Text.isHexDigit && ds.length % 2 == 0 && !rest.isEmpty, ds ++ rest.take 1, rest.drop 1)

/-- Drops a comment up to its closing mark, which may be missing; the count of characters dropped comes first. -/
def skipBlockComment (dropped : Nat) : List Char → Nat × List Char
  | '*' :: '/' :: rest => (dropped + 2, rest)
  | _ :: rest => skipBlockComment (dropped + 1) rest
  | [] => (dropped, [])

def isDoubleSymbol (c d : Char) : Bool :=
  [('=', '='), ('<', '='), ('<', '>'), ('<', '<'), ('>', '='), ('>', '>'), ('!', '='), ('|', '|'), ('-', '>')].contains
    (c, d)

def isSymbol (c : Char) : Bool := ['(', ')', ';', '+', '-', '*', '/', '%', ',', '&', '~', '=', '<', '>', '|', '.'].contains c

/-- The first token of a text that starts with no blank and no bytes in quotes, as kind, characters and rest. -/
def firstPlainToken (c : Char) (rest : List Char) : TokenKind × List Char × List Char :=
  if isWordStart c then
    let (word, rest) := (c :: rest).span isWordPart
    (.word, word, rest)
  else if Text.isDigit c || (c == '.' && (rest.head?.map Text.isDigit).getD false) then
    let (number, rest) := spanLiteral (c :: rest)
    let (junk, rest) := rest.span isWordPart
    (if junk.isEmpty then .number else .illegal, number ++ junk, rest)
  else if c = '"' ∨ c = '\'' ∨ c.toNat = 96 then
    match readQuoted c [] [c] rest with
    | some (name, taken, rest) => (.quoted (String.ofList name), taken, rest)
    | none => (.illegal, c :: rest, [])
  else if c = '[' then
    match readBracketed [] rest with
    | some (name, rest) => (.quoted (String.ofList name), '[' :: (name ++ [']']), rest)
    | none => (.illegal, c :: rest, [])
  else if c = '?' then
    let (ds, rest) := rest.span Text.isDigit
    (.parameter, c :: ds, rest)
  else if c = '$' ∨ c = '@' ∨ c = ':' ∨ c = '#' then
    let (word, rest) := rest.span isWordPart
    (if word.isEmpty then .illegal else .parameter, c :: word, rest)
  else match rest with
    | d :: more =>
      if isDoubleSymbol c d then (.symbol, [c, d], more)
      else if isSymbol c then (.symbol, [c], rest) else (.illegal, [c], rest)
    | [] => if isSymbol c then (.symbol, [c], []) else (.illegal, [c], [])

/-- The first token of a text that starts with no blank, as kind, characters and rest. -/
def firstToken : List Char → TokenKind × List Char × List Char
  | [] => (.illegal, [], [])
  | c :: '\'' :: rest =>
    if c = 'x' ∨ c = 'X' then
      let (legal, bytes, rest) := spanBytes rest
      (if legal then .bytes else .illegal, c :: '\'' :: bytes, rest)
    else firstPlainToken c ('\'' :: rest)
  | c :: rest => firstPlainToken c rest

/-- Cuts a text that starts at a byte into tokens. The bound on the steps is met by the length of the text. -/
def tokensFrom : Nat → Nat → List Char → List Token
  | 0, _, _ => []
  | fuel + 1, offset, cs =>
    match cs with
    | [] => []
    | '-' :: '-' :: rest =>
      let (comment, rest) := rest.span (· != '\n')
      tokensFrom fuel (offset + 2 + Text.byteLength comment) rest
    | '/' :: '*' :: c :: rest =>
      let (_, after) := skipBlockComment 2 (c :: rest)
      tokensFrom fuel (offset + Text.byteLength cs - Text.byteLength after) after
    | c :: rest =>
      if isSpace c then tokensFrom fuel (offset + c.utf8Size) rest
      else
        let (kind, raw, rest) := firstToken (c :: rest)
        { kind, raw := String.ofList raw, offset } :: tokensFrom fuel (offset + Text.byteLength raw) rest

def tokens (statement : String) : List Token :=
  tokensFrom (statement.length + 1) 0 statement.toList

end Herbarium.Sql
