import NetGauge.Text.Digits

set_option autoImplicit false

/-! # Addresses

The addresses that may stand for a host. A version 4 address is written in four decimal parts, and
read from up to four parts in three bases, the last of which fills what is left of the address. A
version 6 address has eight pieces; its text leaves out the longest run of zeros, and its last two
pieces may be read from the text of a version 4 address. -/

namespace NetGauge.Origin

open Text (digitsValue?)

/-! ## Version 4 -/

/-- Four bytes. -/
structure Ipv4 where
  first : UInt8
  second : UInt8
  third : UInt8
  fourth : UInt8
  deriving DecidableEq

namespace Ipv4

/-- A part of an address: hexadecimal after `0x`, octal after another leading zero, else decimal. -/
def part? : List Char → Option Nat
  | [] => none
  | ['0'] => some 0
  | '0' :: 'x' :: digits | '0' :: 'X' :: digits => digitsValue? 16 digits
  | '0' :: digits => digitsValue? 8 digits
  | digits => digitsValue? 10 digits

/-- The parts of a name between its dots, of which the last may be empty. -/
def parts (name : List Char) : List (List Char) :=
  let parts := name.splitOn '.'
  if parts.getLast? = some [] then parts.dropLast else parts

/-- Whether a name is meant as an address: its last part is a number, be it well written or not. -/
def isMeant (name : List Char) : Bool :=
  match (parts name).getLast? with
  | none => false
  | some last => (!last.isEmpty && last.all Char.isDigit) || (part? last).isSome

/-- So many bytes of a number, the highest first. -/
def bytesOf (n : Nat) : Nat → List Nat
  | 0 => []
  | count + 1 => n / Nat.pow 256 count % 256 :: bytesOf n count

/-- The address of one to four parts: bytes, and a last part for all the bytes that are left. -/
def ofParts? (parts : List Nat) : Option Ipv4 := do
  let last ← parts.getLast?
  let bytes := parts.dropLast
  let left := 4 - bytes.length
  if 0 < left ∧ bytes.all (· < 256) ∧ last < Nat.pow 256 left then
    match bytes ++ bytesOf last left with
    | [a, b, c, d] => some ⟨.ofNat a, .ofNat b, .ofNat c, .ofNat d⟩
    | _ => none
  else none

/-- Reads an address. -/
def parse? (name : List Char) : Option Ipv4 := ((parts name).mapM part?).bind ofParts?

/-- The bytes of an address. -/
def bytes (a : Ipv4) : List UInt8 := [a.first, a.second, a.third, a.fourth]

def text (a : Ipv4) : String :=
  String.intercalate "." (a.bytes.map (fun b => toString b.toNat))

end Ipv4

/-! ## Version 6 -/

/-- Eight pieces. -/
structure Ipv6 where
  pieces : List UInt16
  length_pieces : pieces.length = 8
  deriving DecidableEq

namespace Ipv6

/-- A piece: one to four hexadecimal digits. -/
def piece? (digits : List Char) : Option UInt16 :=
  if 1 ≤ digits.length ∧ digits.length ≤ 4 then (digitsValue? 16 digits).map .ofNat else none

/-- A byte in decimal digits, without a leading zero. -/
def byte? (digits : List Char) : Option Nat := do
  if digits.isEmpty ∨ (1 < digits.length ∧ digits.head? = some '0') then none
  else
    let n ← digitsValue? 10 digits
    if n < 256 then some n else none

/-- The two pieces of a version 4 address. -/
def quad? (cs : List Char) : Option (List UInt16) := do
  match ← (cs.splitOn '.').mapM byte? with
  | [a, b, c, d] => some [.ofNat (256 * a + b), .ofNat (256 * c + d)]
  | _ => none

/-- Pieces between colons. -/
def pieces? (cs : List Char) : Option (List UInt16) :=
  if cs.isEmpty then some [] else (cs.splitOn ':').mapM piece?

/-- Pieces between colons, the last of which may be a version 4 address. -/
def lastPieces? (cs : List Char) : Option (List UInt16) := do
  if cs.isEmpty then some []
  else
    let parts := cs.splitOn ':'
    let last := parts.getLast?.getD []
    if last.contains '.' then return (← parts.dropLast.mapM piece?) ++ (← quad? last)
    else parts.mapM piece?

/-- What stands before and after the first double colon. -/
def cut? : List Char → Option (List Char × List Char)
  | ':' :: ':' :: rest => some ([], rest)
  | c :: rest => (cut? rest).map (fun (before, after) => (c :: before, after))
  | [] => none

/-- An address of so many pieces as there are, if they are eight. -/
def ofPieces? (pieces : List UInt16) : Option Ipv6 :=
  if h : pieces.length = 8 then some ⟨pieces, h⟩ else none

/-- Reads an address. A double colon stands for the zeros that are left out, at least one. -/
def parse? (cs : List Char) : Option Ipv6 := do
  match cut? cs with
  | none => ofPieces? (← lastPieces? cs)
  | some (before, after) =>
    let head ← pieces? before
    let tail ← lastPieces? after
    let zeros := 8 - (head.length + tail.length)
    if zeros = 0 then none
    else ofPieces? (head ++ List.replicate zeros 0 ++ tail)

/-- How many zeros a list begins with. -/
def zerosAtFront : List UInt16 → Nat
  | [] => 0
  | p :: rest => if p = 0 then zerosAtFront rest + 1 else 0

/-- Where the longest run of zeros begins and how long it is; the first of equal ones. -/
def longestZeros (pieces : List UInt16) : Nat × Nat :=
  (List.range pieces.length).foldl (fun best start =>
    let length := zerosAtFront (pieces.drop start)
    if best.2 < length then (start, length) else best) (0, 0)

/-- Pieces in hexadecimal digits, with colons between them. -/
def joined (pieces : List UInt16) : String :=
  String.intercalate ":" (pieces.map (fun p => String.ofList (Nat.toDigits 16 p.toNat)))

/-- The text of an address. A lone zero is not left out. -/
def text (a : Ipv6) : String :=
  let (start, length) := longestZeros a.pieces
  if length < 2 then joined a.pieces
  else joined (a.pieces.take start) ++ "::" ++ joined (a.pieces.drop (start + length))

end Ipv6

end NetGauge.Origin
