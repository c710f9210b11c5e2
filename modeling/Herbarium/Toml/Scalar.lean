import Herbarium.Decimal.Reader
import Herbarium.Text.Digit
import Herbarium.Toml.Basic

/-!
Keys, strings, numbers and times of TOML.

Each reader takes the characters it needs off the front of a text, or refuses the text.
-/

namespace Herbarium.Toml

/-- A reader of something at the front of a text. -/
abbrev Reader (α : Type) := List Char → Option (α × List Char)

def isBlank (c : Char) : Bool := c == ' ' || c == '\t'

def skipBlanks (cs : List Char) : List Char := cs.dropWhile isBlank

/-- A control character other than the tab. -/
def isControl (c : Char) : Bool := (c.toNat < 32 && c != '\t') || c.toNat == 127

/-- A character of a key without quotes. -/
def isBareKey (c : Char) : Bool :=
  Text.isLetter c || Text.isDigit c || c == '-' || c == '_'

/-! Strings. -/

/-- The number that digits of a base up to sixteen write. -/
def valueIn (base : Nat) (ds : List Char) : Nat :=
  ds.foldl (fun n c => n * base + (Text.hexValue? c).getD 0) 0

/-- Reads a code point of a number of hexadecimal digits. -/
def readCodePoint (count : Nat) : Reader Char := fun cs =>
  let ds := cs.take count
  if ds.length = count ∧ ds.all Text.isHexDigit then
    let n := valueIn 16 ds
    if h : n.isValidChar then some (Char.ofNatAux n h, cs.drop count) else none
  else none

/-- Reads what follows a backslash. -/
def readEscape : Reader Char
  | 'b' :: rest => some (Char.ofNat 8, rest)
  | 't' :: rest => some ('\t', rest)
  | 'n' :: rest => some ('\n', rest)
  | 'f' :: rest => some (Char.ofNat 12, rest)
  | 'r' :: rest => some ('\r', rest)
  | '"' :: rest => some ('"', rest)
  | '\\' :: rest => some ('\\', rest)
  | 'u' :: rest => readCodePoint 4 rest
  | 'U' :: rest => readCodePoint 8 rest
  | _ => none

/-- Reads the rest of a string of one line with escapes. -/
def readBasic : Nat → List Char → Reader String
  | 0, _, _ => none
  | fuel + 1, read, cs =>
    match cs with
    | '"' :: rest => some (String.ofList read.reverse, rest)
    | '\\' :: rest => do
      let (c, rest) ← readEscape rest
      readBasic fuel (c :: read) rest
    | c :: rest => if isControl c then none else readBasic fuel (c :: read) rest
    | [] => none

/-- Reads the rest of a string of one line without escapes. -/
def readLiteral (read : List Char) : Reader String
  | [] => none
  | c :: rest =>
    if c.toNat = 39 then some (String.ofList read.reverse, rest)
    else if isControl c then none else readLiteral (c :: read) rest

/-- Drops a line end. -/
def readNewline : List Char → Option (List Char)
  | '\n' :: rest => some rest
  | '\r' :: '\n' :: rest => some rest
  | _ => none

/-- Drops line ends and blanks. -/
def skipLines : Nat → List Char → List Char
  | 0, cs => cs
  | fuel + 1, cs =>
    match cs with
    | c :: rest => if isBlank c then skipLines fuel rest else
      match readNewline (c :: rest) with
      | some rest => skipLines fuel rest
      | none => c :: rest
    | [] => []

/-- Reads the rest of a string of several lines: up to three quotes, of which up to two more may belong to it. -/
def readLong (quote : Char) (escapes : Bool) : Nat → List Char → Reader String
  | 0, _, _ => none
  | fuel + 1, read, cs =>
    match cs with
    | [] => none
    | c :: rest =>
      if c = quote then
        let quotes := (cs.take 5).takeWhile (· == quote)
        if quotes.length < 3 then readLong quote escapes fuel (c :: read) rest
        else
          let inner := quotes.drop 3
          some (String.ofList (inner ++ read).reverse, cs.drop quotes.length)
      else if c = '\\' ∧ escapes then
        match readNewline (skipBlanks rest) with
        | some rest => readLong quote escapes fuel read (skipLines rest.length rest)
        | none => do
          let (c, rest) ← readEscape rest
          readLong quote escapes fuel (c :: read) rest
      else match readNewline cs with
        | some rest => readLong quote escapes fuel ('\n' :: read) rest
        | none => if isControl c then none else readLong quote escapes fuel (c :: read) rest

/-- Drops a line end at the start of a string of several lines. -/
def dropFirstLine (cs : List Char) : List Char := (readNewline cs).getD cs

/-- The quote of strings without escapes. -/
def literalQuote : Char := Char.ofNat 39

def readShort? : List Char → Option (Option (String × List Char))
  | c :: rest =>
    if c = '"' then some (readBasic (rest.length + 1) [] rest)
    else if c = literalQuote then some (readLiteral [] rest)
    else none
  | [] => none

def readString (cs : List Char) : Option (String × List Char) :=
  match cs with
  | a :: b :: c :: rest =>
    if (a = '"' ∨ a = literalQuote) ∧ b = a ∧ c = a then
      readLong a (a == '"') (rest.length + 1) [] (dropFirstLine rest)
    else (readShort? cs).getD none
  | cs => (readShort? cs).getD none

/-! Keys. -/

/-- Reads one key of a dotted key. -/
def readSimpleKey (cs : List Char) : Option (String × List Char) :=
  match readShort? cs with
  | some key => key
  | none =>
    match cs.span isBareKey with
    | ([], _) => none
    | (key, rest) => some (String.ofList key, rest)

/-- Reads the keys of a dotted key, with blanks around each. -/
def readKeys : Nat → List String → Reader (List String)
  | 0, _, _ => none
  | fuel + 1, read, cs => do
    let (key, rest) ← readSimpleKey (skipBlanks cs)
    match skipBlanks rest with
    | '.' :: rest => readKeys fuel (key :: read) rest
    | rest => return ((key :: read).reverse, rest)

/-- How many keys a dotted key may have, and how deep arrays and inline tables may nest. -/
def depthLimit : Nat := 79

/-- Reads a dotted key: the keys on the way and the last one. -/
def readKey (cs : List Char) : Option ((List String × String) × List Char) := do
  let (keys, rest) ← readKeys cs.length [] cs
  if depthLimit < keys.length then none
  else return ((keys.dropLast, ← keys.getLast?), rest)

/-! Numbers. -/

/-- The digits of a class at the front of a text, single underscores between them left out. -/
def spanGrouped (isIn : Char → Bool) : List Char → List Char × List Char
  | [] => ([], [])
  | c :: rest =>
    if isIn c then
      let (ds, rest) := match rest with
        | '_' :: d :: more => if isIn d then spanGrouped isIn (d :: more) else ([], rest)
        | rest => spanGrouped isIn rest
      (c :: ds, rest)
    else ([], c :: rest)

/-- The integers a document can hold. -/
def integer? (n : Int) : Option Toml :=
  if -0x8000000000000000 ≤ n ∧ n < 0x8000000000000000 then some (.integer n) else none

/-- Reads an integer of a base after its mark. -/
def readBased (base : Nat) (isIn : Char → Bool) : Reader Toml := fun cs =>
  match spanGrouped isIn cs with
  | ([], _) => none
  | (ds, rest) => (integer? (valueIn base ds)).map fun v => (v, rest)

def readExponent (cs : List Char) : Option (List Char × List Char) :=
  match cs with
  | c :: rest =>
    if c = 'e' ∨ c = 'E' then
      let (sign, rest) := match rest with
        | '+' :: rest => (['+'], rest)
        | '-' :: rest => (['-'], rest)
        | rest => ([], rest)
      match spanGrouped Text.isDigit rest with
      | ([], _) => none
      | (ds, rest) => some ('e' :: (sign ++ ds), rest)
    else some ([], cs)
  | [] => some ([], [])

/-- A number with fraction or exponent; one too large is refused. -/
def floatOf (negative : Bool) (text rest : List Char) : Option (Toml × List Char) := do
  let (_, d) ← Decimal.read? text
  if !negative && (Binary64.ofDecimal false d).isInfinite then none else return (.float, rest)

/-- Reads a decimal number after its sign. -/
def readDecimal (negative : Bool) (cs : List Char) : Option (Toml × List Char) :=
  match spanGrouped Text.isDigit cs with
  | ([], _) => none
  | ('0' :: _ :: _, _) => none
  | (whole, rest) =>
    match rest with
    | '.' :: more =>
      match spanGrouped Text.isDigit more with
      | ([], _) => none
      | (fraction, rest) => do
        let (exponent, rest) ← readExponent rest
        floatOf negative (whole ++ '.' :: fraction ++ exponent) rest
    | rest => do
      let (exponent, rest) ← readExponent rest
      if exponent.isEmpty then
        let n : Int := Decimal.valueOfDigits whole
        return (← integer? (if negative then -n else n), rest)
      else floatOf negative (whole ++ exponent) rest

/-- Reads the name of a number that has no digits. -/
def readNamed : Reader Toml
  | 'i' :: 'n' :: 'f' :: rest => some (.float, rest)
  | 'n' :: 'a' :: 'n' :: rest => some (.float, rest)
  | _ => none

def readNumber (cs : List Char) : Option (Toml × List Char) :=
  match cs with
  | '0' :: 'x' :: rest => readBased 16 Text.isHexDigit rest
  | '0' :: 'o' :: rest => readBased 8 (fun c => '0' ≤ c && c ≤ '7') rest
  | '0' :: 'b' :: rest => readBased 2 (fun c => c == '0' || c == '1') rest
  | '+' :: rest => (readNamed rest).orElse fun _ => readDecimal false rest
  | '-' :: rest => (readNamed rest).orElse fun _ => readDecimal true rest
  | cs => (readNamed cs).orElse fun _ => readDecimal false cs

/-! Times. -/

/-- The number a fixed count of digits writes. -/
def readDigits (count : Nat) : Reader Nat := fun cs =>
  let ds := cs.take count
  if ds.length = count ∧ ds.all Text.isDigit then some (Decimal.valueOfDigits ds, cs.drop count) else none

def readChar (c : Char) : List Char → Option (List Char)
  | d :: rest => if d = c then some rest else none
  | [] => none

def isLeap (year : Nat) : Bool := year % 4 == 0 && (year % 100 != 0 || year % 400 == 0)

def daysOf (year month : Nat) : Nat :=
  if month = 2 then if isLeap year then 29 else 28
  else if [4, 6, 9, 11].contains month then 30 else 31

def readDate (cs : List Char) : Option (List Char) := do
  let (year, cs) ← readDigits 4 cs
  let cs ← readChar '-' cs
  let (month, cs) ← readDigits 2 cs
  let cs ← readChar '-' cs
  let (day, cs) ← readDigits 2 cs
  if 1 ≤ month ∧ month ≤ 12 ∧ 1 ≤ day ∧ day ≤ daysOf year month then some cs else none

def readHourMinute (cs : List Char) : Option (List Char) := do
  let (hour, cs) ← readDigits 2 cs
  let cs ← readChar ':' cs
  let (minute, cs) ← readDigits 2 cs
  if hour ≤ 23 ∧ minute ≤ 59 then some cs else none

def readTime (cs : List Char) : Option (List Char) := do
  let cs ← readHourMinute cs
  let cs ← readChar ':' cs
  let (second, cs) ← readDigits 2 cs
  if 60 < second then none
  else match cs with
    | '.' :: rest =>
      match rest.span Text.isDigit with
      | ([], _) => none
      | (_, rest) => some rest
    | cs => some cs

/-- Drops the distance from universal time, if there is one. -/
def readOffset (cs : List Char) : Option (List Char) :=
  match cs with
  | c :: rest =>
    if c = 'Z' ∨ c = 'z' then some rest
    else if c = '+' ∨ c = '-' then readHourMinute rest
    else some cs
  | [] => some []

def startsAsDate (cs : List Char) : Bool :=
  (cs.take 4).length == 4 && (cs.take 4).all Text.isDigit && (cs.drop 4).head? == some '-'

def startsAsTime (cs : List Char) : Bool :=
  (cs.take 2).length == 2 && (cs.take 2).all Text.isDigit && (cs.drop 2).head? == some ':'

/-- Reads a date, a time of day, or both. -/
def readDatetime (cs : List Char) : Option (Toml × List Char) :=
  if startsAsTime cs then (readTime cs).map fun rest => (.datetime, rest)
  else do
    let rest ← readDate cs
    match rest with
    | c :: more =>
      if c = 'T' ∨ c = 't' ∨ (c = ' ' ∧ (more.head?.map Text.isDigit).getD false) then do
        let rest ← readOffset (← readTime more)
        return (.datetime, rest)
      else return (.datetime, rest)
    | [] => return (.datetime, [])

end Herbarium.Toml
