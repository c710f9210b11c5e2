/-!
Punycode.

A label with characters beyond ASCII is written in ASCII: its ASCII characters first, then the others in rising order,
each as the distance from the one before, in digits of base 36 whose thresholds adapt to the distances seen.
-/

namespace Herbarium.Url.Punycode

/-- The character of a digit: letters, then digits. -/
def digitChar (d : Nat) : Char := if d < 26 then Char.ofNat (97 + d) else Char.ofNat (22 + d)

def digitValue? (c : Char) : Option Nat :=
  let n := c.toNat
  if 97 ≤ n ∧ n ≤ 122 then some (n - 97)
  else if 65 ≤ n ∧ n ≤ 90 then some (n - 65)
  else if 48 ≤ n ∧ n ≤ 57 then some (n - 22)
  else none

def threshold (place bias : Nat) : Nat :=
  if place ≤ bias then 1 else if bias + 26 ≤ place then 26 else place - bias

/-- Divides a distance down to the range of the thresholds, counting the places. -/
def settle (fuel delta place : Nat) : Nat × Nat :=
  match fuel with
  | 0 => (delta, place)
  | fuel + 1 => if 455 < delta then settle fuel (delta / 35) (place + 36) else (delta, place)

/-- The bias after a distance, with the count of characters so far. -/
def adapt (delta count : Nat) (first : Bool) : Nat :=
  let scaled := if first then delta / 700 else delta / 2
  let (d, place) := settle 64 (scaled + scaled / count) 0
  place + 36 * d / (d + 38)

def encodeDistance : Nat → Nat → Nat → Nat → List Char
  | 0, _, _, _ => []
  | fuel + 1, bias, place, q =>
    let t := threshold place bias
    if q < t then [digitChar q]
    else digitChar (t + (q - t) % (36 - t)) :: encodeDistance fuel bias (place + 36) ((q - t) / (36 - t))

/-- What the encoder remembers between characters. -/
structure State where
  /-- The text so far, last part first. -/
  output : List (List Char)
  delta : Nat
  bias : Nat
  count : Nat

/-- Goes over one character while those of one code point are written. -/
def visit (basic code : Nat) (s : State) (c : Char) : State :=
  if c.toNat < code then { s with delta := s.delta + 1 }
  else if c.toNat = code then
    { output := encodeDistance 64 s.bias 36 s.delta :: s.output, delta := 0,
      bias := adapt s.delta (s.count + 1) (s.count == basic), count := s.count + 1 }
  else s

/-- Writes the code points of a rising list, the last one written being `before` less one. -/
def encodeCodes (label : List Char) (basic before : Nat) (s : State) : List Nat → State
  | [] => s
  | code :: rest =>
    let s := { s with delta := s.delta + (code - before) * (s.count + 1) }
    let s := label.foldl (visit basic code) s
    encodeCodes label basic (code + 1) { s with delta := s.delta + 1 } rest

/-- The label in ASCII. -/
def encode (label : List Char) : List Char :=
  let basic := label.filter fun c => c.toNat < 128
  let codes := ((label.filter fun c => 128 ≤ c.toNat).map Char.toNat).mergeSort.eraseDups
  let s := encodeCodes label basic.length 128 { output := [], delta := 0, bias := 72, count := basic.length } codes
  (if basic.isEmpty then [] else basic ++ ['-']) ++ s.output.reverse.flatten

/-- Reads one distance: the value so far, the weight of the next digit and its place. -/
def decodeDistance (bias value weight place : Nat) : List Char → Option (Nat × List Char)
  | [] => none
  | c :: rest => do
    let d ← digitValue? c
    let value := value + d * weight
    let t := threshold place bias
    if d < t then return (value, rest) else decodeDistance bias value (weight * (36 - t)) (place + 36) rest

def insertAt (c : Char) : Nat → List Char → List Char
  | 0, cs => c :: cs
  | _ + 1, [] => [c]
  | i + 1, x :: cs => x :: insertAt c i cs

/-- Reads the distances of a label into the characters read so far; `first` says that none was read before. -/
def decodeCodes : Nat → Bool → List Char → Nat → Nat → Nat → List Char → Option (List Char)
  | 0, _, _, _, _, _, _ => none
  | _ + 1, _, read, _, _, _, [] => some read
  | fuel + 1, first, read, code, index, bias, cs => do
    let (distance, rest) ← decodeDistance bias 0 1 36 cs
    let total := index + distance
    let length := read.length + 1
    let code := code + total / length
    if 0x10FFFF < code ∨ (0xD800 ≤ code ∧ code ≤ 0xDFFF) then none
    else
      let index := total % length
      decodeCodes fuel false (insertAt (Char.ofNat code) index read) code (index + 1) (adapt distance length first) rest

/-- The characters before the last hyphen and those after it. -/
def splitLastHyphen (cs : List Char) : List Char × List Char :=
  match cs.reverse.span (· != '-') with
  | (_, []) => ([], cs)
  | (after, _ :: before) => (before.reverse, after.reverse)

/-- The label a text in ASCII stands for. -/
def decode (cs : List Char) : Option (List Char) :=
  let (basic, rest) := splitLastHyphen cs
  if basic.any fun c => 128 ≤ c.toNat then none
  else decodeCodes (rest.length + 1) true basic 128 0 72 rest

end Herbarium.Url.Punycode
