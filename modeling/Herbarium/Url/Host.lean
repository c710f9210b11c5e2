import Herbarium.Url.Domain
import Herbarium.Url.Percent

/-!
Hosts.

A host is a domain, an address of four bytes or an address of eight groups. A domain whose last label is a number must
be an address of four bytes, its numbers decimal, octal or hexadecimal and the last of them filling what is left. An
address of eight groups stands in brackets and is written with its longest run of zero groups left out.
-/

namespace Herbarium.Url

/-- Why an address does not read. -/
inductive Fault where
  | relative
  | emptyHost
  | invalidDomain
  | invalidCharacter
  | invalidIpv4
  | invalidIpv6
  | invalidPort
  deriving DecidableEq

def Fault.message : Fault → String
  | .relative => "relative URL without a base"
  | .emptyHost => "empty host"
  | .invalidDomain => "invalid international domain name"
  | .invalidCharacter => "invalid domain character"
  | .invalidIpv4 => "invalid IPv4 address"
  | .invalidIpv6 => "invalid IPv6 address"
  | .invalidPort => "invalid port number"

/-- Where an address points. -/
inductive Host where
  | domain (name : List Char)
  | ipv4 (address : Nat)
  | ipv6 (groups : List Nat)
  deriving DecidableEq

/-- The value of a digit in a base up to sixteen. -/
def digitIn? (base : Nat) (c : Char) : Option Nat :=
  (Text.hexValue? c).filter (· < base)

def numberIn? (base : Nat) (cs : List Char) : Option Nat :=
  cs.foldlM (fun n c => (digitIn? base c).map (n * base + ·)) 0

/-- The value of a number of an address: hexadecimal after `0x`, octal after `0`, else decimal. -/
def addressNumber? (cs : List Char) : Option Nat :=
  match cs with
  | [] => none
  | '0' :: 'x' :: rest | '0' :: 'X' :: rest => numberIn? 16 rest
  | '0' :: d :: rest => numberIn? 8 (d :: rest)
  | cs => numberIn? 10 cs

/-- Without the empty last label of a domain that ends in a full stop. -/
def dropLastEmpty (labels : List (List Char)) : List (List Char) :=
  if labels.getLast? = some [] then labels.dropLast else labels

/-- Whether a domain's last label is a number. -/
def endsInNumber (name : List Char) : Bool :=
  let labels := name.splitOn '.'
  if labels = [[]] then false
  else match (dropLastEmpty labels).getLast? with
    | none => false
    | some last => (!last.isEmpty && last.all fun c => (digitIn? 10 c).isSome) || (addressNumber? last).isSome

/-- The address four bytes or fewer numbers write. -/
def ipv4Of (name : List Char) : Except Fault Host :=
  let labels := dropLastEmpty (name.splitOn '.')
  if 4 < labels.length then .error .invalidIpv4
  else match labels.mapM addressNumber? with
    | none => .error .invalidIpv4
    | some numbers =>
      let front := numbers.dropLast
      let last := numbers.getLastD 0
      if front.any fun n => 255 < n then .error .invalidIpv4
      else if 1 <<< (8 * (4 - front.length)) ≤ last then .error .invalidIpv4
      else .ok (.ipv4 (front.zipIdx.foldl (fun sum (n, i) => sum + n <<< (8 * (3 - i))) last))

/-- One to four hexadecimal digits at the front, and the rest. -/
def spanGroup (cs : List Char) : List Char × List Char :=
  let ds := (cs.take 4).takeWhile fun c => (digitIn? 16 c).isSome
  (ds, cs.drop ds.length)

/-- The bytes of a dotted address that ends a longer one. -/
def dottedBytes? (cs : List Char) : Option (List Nat) :=
  let parts := cs.splitOn '.'
  if parts.length ≠ 4 then none
  else parts.mapM fun part =>
    if part.isEmpty ∨ (1 < part.length ∧ part.head? = some '0') then none
    else (numberIn? 10 part).filter (· ≤ 255)

/-- Reads groups to the end: those read, last first, and how many of them stood before the gap. -/
def readGroups : Nat → List Nat → Option Nat → List Char → Option (List Nat × Option Nat)
  | 0, _, _, _ => none
  | fuel + 1, read, gap, cs =>
    match cs with
    | [] => some (read, gap)
    | ':' :: rest =>
      if gap.isSome ∨ 8 ≤ read.length then none else readGroups fuel read (some read.length) rest
    | cs =>
      if 8 ≤ read.length then none
      else match spanGroup cs with
        | (ds, rest) =>
          match rest with
          | '.' :: _ =>
            if ds.isEmpty ∨ 6 < read.length then none
            else match dottedBytes? cs with
              | some [a, b, c, d] => some ((c * 256 + d) :: (a * 256 + b) :: read, gap)
              | _ => none
          | ':' :: more =>
            if ds.isEmpty ∨ more.isEmpty then none
            else readGroups fuel ((numberIn? 16 ds).getD 0 :: read) gap more
          | [] => some ((numberIn? 16 ds).getD 0 :: read, gap)
          | _ => none

/-- The address of eight groups a text without its brackets writes. -/
def ipv6Of (cs : List Char) : Except Fault Host :=
  let start := match cs with
    | ':' :: ':' :: rest => some (some 0, rest)
    | ':' :: _ => none
    | cs => some (none, cs)
  match start with
  | none => .error .invalidIpv6
  | some (gap, rest) =>
    match readGroups 20 [] gap rest with
    | none => .error .invalidIpv6
    | some (read, none) => if read.length = 8 then .ok (.ipv6 read.reverse) else .error .invalidIpv6
    | some (read, some before) =>
      if 8 ≤ read.length then .error .invalidIpv6
      else
        let groups := read.reverse
        .ok (.ipv6 (groups.take before ++ List.replicate (8 - read.length) 0 ++ groups.drop before))

/-- Reads the host of an address of the web. -/
def Host.parse (cs : List Char) : Except Fault Host :=
  match cs with
  | '[' :: rest => if rest.getLast? = some ']' then ipv6Of rest.dropLast else .error .invalidIpv6
  | cs =>
    match asciiDomain? (Text.Utf8.decodeLossy (decodeBytes (Text.Utf8.encode cs))) with
    | none => .error .invalidDomain
    | some [] => .error .emptyHost
    | some name => if endsInNumber name then ipv4Of name else .ok (.domain name)

/-- Reads the host of any other address: a domain is kept as it is. -/
def Host.parseOpaque (cs : List Char) : Except Fault Host :=
  match cs with
  | '[' :: rest => if rest.getLast? = some ']' then ipv6Of rest.dropLast else .error .invalidIpv6
  | cs =>
    if cs.any fun c => c.toNat = 0 || [' ', '#', '/', ':', '<', '>', '?', '@', '[', '\\', ']', '^', '|'].contains c then
      .error .invalidCharacter
    else .ok (.domain (encodeText (fun _ => false) cs))

/-- The start and length of the first longest run of zeros, if it is longer than one. -/
def longestZeros (groups : List Nat) : Option (Nat × Nat) :=
  let runAt := fun i => ((groups.drop i).takeWhile (· == 0)).length
  let best := (List.range groups.length).foldl (fun (best : Nat × Nat) i =>
    if best.2 < runAt i then (i, runAt i) else best) (0, 0)
  if 1 < best.2 then some best else none

/-- A group in hexadecimal digits. -/
def groupChars (n : Nat) : List Char := Nat.toDigits 16 n

def Host.chars : Host → List Char
  | .domain name => name
  | .ipv4 n =>
    List.intercalate ['.'] ([n / 0x1000000, n / 0x10000 % 256, n / 256 % 256, n % 256].map (Nat.toDigits 10))
  | .ipv6 groups =>
    let join := fun gs => List.intercalate [':'] (gs.map groupChars)
    match longestZeros groups with
    | none => '[' :: (join groups ++ [']'])
    | some (start, length) =>
      '[' :: (join (groups.take start) ++ [':', ':'] ++ join (groups.drop (start + length)) ++ [']'])

end Herbarium.Url
