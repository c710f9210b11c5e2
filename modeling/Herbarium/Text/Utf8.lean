/-!
UTF-8 as bytes.

`next` reads one character off a list of bytes, or tells how many of the bytes begin no character. `decodeLossy` puts
one replacement character for each such stretch; `fault?` finds the first of them.
-/

namespace Herbarium.Text.Utf8

def encode (cs : List Char) : List UInt8 := cs.flatMap String.utf8EncodeChar

/-- How many bytes follow a first byte, and between which bounds the next of them lies. -/
def following? (first : Nat) : Option (Nat × Nat × Nat) :=
  if first < 0xC2 then none
  else if first ≤ 0xDF then some (1, 0x80, 0xBF)
  else if first = 0xE0 then some (2, 0xA0, 0xBF)
  else if first = 0xED then some (2, 0x80, 0x9F)
  else if first ≤ 0xEF then some (2, 0x80, 0xBF)
  else if first = 0xF0 then some (3, 0x90, 0xBF)
  else if first ≤ 0xF3 then some (3, 0x80, 0xBF)
  else if first = 0xF4 then some (3, 0x80, 0x8F)
  else none

/-- What stands at the front of a list of bytes. -/
inductive Step where
  | character (c : Char) (rest : List UInt8)
  /-- Bytes that begin no character; whether only the end of the list keeps them from it. -/
  | broken (length : Nat) (atEnd : Bool) (rest : List UInt8)

/-- Reads the bytes that follow a first byte: how many, the bounds of the next, the value and the count so far. -/
def readFollowing (value taken : Nat) : Nat → Nat → Nat → List UInt8 → Step
  | 0, _, _, bytes => .character (Char.ofNat value) bytes
  | _ + 1, _, _, [] => .broken taken true []
  | n + 1, low, high, b :: rest =>
    if low ≤ b.toNat ∧ b.toNat ≤ high then readFollowing (value * 64 + (b.toNat - 0x80)) (taken + 1) n 0x80 0xBF rest
    else .broken taken false (b :: rest)

/-- Reads what stands at the front of a list that starts with a byte. -/
def next (b : UInt8) (rest : List UInt8) : Step :=
  let first := b.toNat
  if first < 0x80 then .character (Char.ofNat first) rest
  else match following? first with
    | none => .broken 1 false rest
    | some (n, low, high) =>
      let mark := if n = 1 then 0xC0 else if n = 2 then 0xE0 else 0xF0
      readFollowing (first - mark) 1 n low high rest

def replacement : Char := Char.ofNat 0xFFFD

/-- Decodes bytes to the end; `read` holds the characters so far, last first. The bound on the steps is met by the
number of bytes. -/
def decodeFrom : Nat → List Char → List UInt8 → List Char
  | 0, read, _ => read.reverse
  | _ + 1, read, [] => read.reverse
  | fuel + 1, read, b :: rest =>
    match next b rest with
    | .character c rest => decodeFrom fuel (c :: read) rest
    | .broken _ _ rest => decodeFrom fuel (replacement :: read) rest

/-- The text of bytes, a replacement character for each stretch that begins no character. -/
def decodeLossy (bytes : List UInt8) : List Char := decodeFrom (bytes.length + 1) [] bytes

/-- Bytes that are no text: where they start, and how many there are unless the end cuts them off. -/
structure Fault where
  index : Nat
  length : Option Nat
  deriving DecidableEq

def Fault.message (f : Fault) : String :=
  match f.length with
  | some n => s!"invalid utf-8 sequence of {n} bytes from index {f.index}"
  | none => s!"incomplete utf-8 byte sequence from index {f.index}"

/-- The first bytes that begin no character, counted from a start. -/
def faultFrom : Nat → Nat → List UInt8 → Option Fault
  | 0, _, _ => none
  | _ + 1, _, [] => none
  | fuel + 1, index, b :: rest =>
    match next b rest with
    | .character c rest => faultFrom fuel (index + c.utf8Size) rest
    | .broken n atEnd _ => some { index, length := if atEnd then none else some n }

/-- The first bytes that begin no character. -/
def fault? (bytes : List UInt8) : Option Fault := faultFrom (bytes.length + 1) 0 bytes

end Herbarium.Text.Utf8
