import Herbarium.Text.Blank
import Herbarium.Url.Host

/-!
Addresses.

`parse` reads an address and brings it into normal form: scheme and domain in lower case, the port left out where it is
the scheme's own, dots in the path resolved, and characters that may not stand as they are percent-encoded. Only
addresses of the web (http and https) are kept as a whole; of any other address only the scheme is, once it is known to
read.
-/

namespace Herbarium.Url

/-- An address of the web, in normal form. -/
structure Address where
  scheme : List Char
  username : List Char
  password : List Char
  host : Host
  port : Option Nat
  /-- The segments of the path, each after a slash. -/
  path : List (List Char)
  query : Option (List Char)
  fragment : Option (List Char)
  deriving DecidableEq

inductive Parsed where
  | web (address : Address)
  | other (scheme : List Char)
  deriving DecidableEq

/-- Whether a scheme's addresses are written with slashes and a host. -/
def isSpecial (scheme : List Char) : Bool :=
  ["http", "https", "ws", "wss", "ftp"].contains (String.ofList scheme)

def defaultPort? (scheme : List Char) : Option Nat :=
  match String.ofList scheme with
  | "http" | "ws" => some 80
  | "https" | "wss" => some 443
  | "ftp" => some 21
  | _ => none

/-- Whether a character is dropped wherever it stands. -/
def isDropped (c : Char) : Bool := c == '\t' || c == '\n' || c == '\r'

/-- Whether a character is dropped at the ends. -/
def isTrimmed (c : Char) : Bool := c.toNat ≤ 32

/-- The characters of a given address that count. -/
def significant (source : String) : List Char :=
  (Text.trimMatches isTrimmed source.toList).filter fun c => !isDropped c

/-- The scheme before the first colon, in lower case, and what follows the colon. -/
def spanScheme? (cs : List Char) : Option (List Char × List Char) :=
  match cs.span fun c => Text.isLetter c || Text.isDigit c || c == '+' || c == '-' || c == '.' with
  | (c :: more, ':' :: rest) => if Text.isLetter c then some ((c :: more).map Text.asciiLower, rest) else none
  | _ => none

/-- Whether a character ends the part that names the host. -/
def endsAuthority (special : Bool) (c : Char) : Bool :=
  c == '/' || c == '?' || c == '#' || (special && c == '\\')

/-- What stands before the last character of a kind, and what follows it. -/
def splitLast? (mark : Char) (cs : List Char) : Option (List Char × List Char) :=
  match cs.reverse.span (· != mark) with
  | (_, []) => none
  | (after, _ :: before) => some (before.reverse, after.reverse)

/-- Reads user name and password: the password follows the first colon. -/
def readUserinfo (cs : List Char) : List Char × List Char :=
  match cs.span (· != ':') with
  | (user, _ :: password) => (encodeText inUserinfo user, encodeText inUserinfo password)
  | (user, []) => (encodeText inUserinfo user, [])

/-- The text of a host and what follows it: a colon ends it unless it stands in brackets. -/
def spanHost (inBrackets : Bool) : List Char → List Char × List Char
  | [] => ([], [])
  | c :: rest =>
    if c = ':' ∧ !inBrackets then ([], c :: rest)
    else
      let inBrackets := if c = '[' then true else if c = ']' then false else inBrackets
      let (host, rest) := spanHost inBrackets rest
      (c :: host, rest)

/-- Reads a port that takes up the whole text; one that is the scheme's own is left out. -/
def readPort (scheme : List Char) (cs : List Char) : Except Fault (Option Nat) :=
  match numberIn? 10 cs with
  | none => .error .invalidPort
  | some n =>
    if 65535 < n then .error .invalidPort
    else if cs.isEmpty ∨ defaultPort? scheme = some n then .ok none else .ok (some n)

/-- User name, password, host and port. -/
structure Authority where
  username : List Char
  password : List Char
  host : Host
  port : Option Nat

def readAuthority (scheme cs : List Char) : Except Fault Authority := do
  let special := isSpecial scheme
  let (userinfo, rest) := (splitLast? '@' cs).getD ([], cs)
  let (username, password) := readUserinfo userinfo
  let (name, rest) := spanHost false rest
  if special && name.isEmpty then throw .emptyHost
  let host ← if special then Host.parse name else Host.parseOpaque name
  match rest with
  | [] => return { username, password, host, port := none }
  | _ :: digits => do
    if name.isEmpty then throw .emptyHost
    let port ← readPort scheme digits
    return { username, password, host, port }

/-- Whether a segment stands for its directory. -/
def isSingleDot (segment : List Char) : Bool :=
  [".", "%2e"].contains (String.ofList (segment.map Text.asciiLower))

/-- Whether a segment stands for the directory above. -/
def isDoubleDot (segment : List Char) : Bool :=
  ["..", ".%2e", "%2e.", "%2e%2e"].contains (String.ofList (segment.map Text.asciiLower))

/-- The path of segments read from the left; `done` holds those before, last first. Dots at the end leave an empty
segment. -/
def resolveDots (done : List (List Char)) : List (List Char) → List (List Char)
  | [] => done.reverse
  | segment :: rest =>
    if isDoubleDot segment then
      resolveDots (if rest.isEmpty then [] :: done.tail else done.tail) rest
    else if isSingleDot segment then resolveDots (if rest.isEmpty then [] :: done else done) rest
    else resolveDots (segment :: done) rest

/-- The segments of a path given after the host. -/
def readPath (cs : List Char) : List (List Char) :=
  let cs := match cs with
    | c :: rest => if c = '/' ∨ c = '\\' then rest else c :: rest
    | [] => []
  let segments := (cs.map fun c => if c = '\\' then '/' else c).splitOn '/'
  resolveDots [] (segments.map (encodeText inPath))

/-- A text up to a mark, and what follows the mark if there is one. -/
def cutAt (mark : Char) (cs : List Char) : List Char × Option (List Char) :=
  match cs.span (· != mark) with
  | (before, _ :: after) => (before, some after)
  | (before, []) => (before, none)

/-- Reads what follows the slashes of an address with a host. -/
def readWeb (scheme cs : List Char) : Except Fault Address := do
  let (named, rest) := cs.span fun c => !endsAuthority true c
  let a ← readAuthority scheme named
  let (rest, fragment) := cutAt '#' rest
  let (path, query) := cutAt '?' rest
  return { scheme, username := a.username, password := a.password, host := a.host, port := a.port,
           path := readPath path, query := query.map (encodeText inQuery),
           fragment := fragment.map (encodeText inFragment) }

/-- Whether a host's text is the letter of a drive. -/
def isDrive (cs : List Char) : Bool :=
  match cs with
  | [c, m] => Text.isLetter c && (m == ':' || m == '|')
  | _ => false

/-- Checks the address of a file: two slashes start a host. -/
def checkFile (cs : List Char) : Except Fault Unit :=
  match cs with
  | a :: b :: rest =>
    if (a = '/' ∨ a = '\\') ∧ (b = '/' ∨ b = '\\') then
      let host := rest.takeWhile fun c => !endsAuthority true c
      if host.isEmpty || isDrive host then .ok () else (Host.parse host).map fun _ => ()
    else .ok ()
  | _ => .ok ()

/-- Checks an address whose host, if it has one, follows two slashes. -/
def checkOther (scheme cs : List Char) : Except Fault Unit :=
  match cs with
  | '/' :: '/' :: rest => (readAuthority scheme (rest.takeWhile fun c => !endsAuthority false c)).map fun _ => ()
  | _ => .ok ()

def parse (source : String) : Except Fault Parsed :=
  match spanScheme? (significant source) with
  | none => .error .relative
  | some (scheme, rest) =>
    if isSpecial scheme then do
      let address ← readWeb scheme (rest.dropWhile fun c => c == '/' || c == '\\')
      if scheme = "http".toList ∨ scheme = "https".toList then return .web address else return .other scheme
    else if scheme = "file".toList then (checkFile rest).map fun _ => .other scheme
    else (checkOther scheme rest).map fun _ => .other scheme

namespace Address

/-- The part of an address before its path. -/
def originChars (a : Address) : List Char :=
  let userinfo :=
    if a.username.isEmpty && a.password.isEmpty then []
    else a.username ++ (if a.password.isEmpty then [] else ':' :: a.password) ++ ['@']
  let port := match a.port with
    | some n => ':' :: Nat.toDigits 10 n
    | none => []
  a.scheme ++ "://".toList ++ userinfo ++ a.host.chars ++ port

def render (a : Address) : String :=
  let path := a.path.flatMap fun segment => '/' :: segment
  let query := match a.query with
    | some q => '?' :: q
    | none => []
  let fragment := match a.fragment with
    | some f => '#' :: f
    | none => []
  String.ofList (a.originChars ++ path ++ query ++ fragment)

def withoutUser (a : Address) : Address := { a with username := [], password := [] }

/-- The address as a server is asked for it: without fragment. -/
def withoutFragment (a : Address) : Address := { a with fragment := none }

end Address

end Herbarium.Url
