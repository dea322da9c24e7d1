set_option autoImplicit false

/-! # Punycode

A label of a domain name that begins with `xn--` stands for a text beyond ASCII, whose other
characters are written as numbers: how far to move through the pairs of a code point and a place
before the next character is put in. The encoder goes through the text once for every code point in
it, the decoder takes one character at a time. -/

namespace NetGauge.Text.Punycode

/-- A decoder between two characters: the text so far, the pair of code point and place where it
    stands, and the number that is being read. -/
structure Decoder where
  text : List Char
  codePoint : Nat := 128
  place : Nat := 0
  bias : Nat := 72
  first : Bool := true
  /-- The number so far, what its next digit weighs, and how far that digit is from the first. -/
  value : Nat := 0
  weight : Nat := 1
  distance : Nat := 36

/-- The value of a digit: letters first, then the decimal digits. -/
def digit? (c : Char) : Option Nat :=
  let n := c.toNat
  if 97 ≤ n ∧ n ≤ 122 then some (n - 97)
  else if 65 ≤ n ∧ n ≤ 90 then some (n - 65)
  else if 48 ≤ n ∧ n ≤ 57 then some (n - 22)
  else none

/-- Digits below this end a number. -/
def threshold (distance bias : Nat) : Nat := min 26 (max 1 (distance - bias))

/-- Divides until what is left is small, and counts. -/
def shrink (delta count : Nat) : Nat × Nat :=
  if 455 < delta then shrink (delta / 35) (count + 36) else (delta, count)
termination_by delta
decreasing_by exact Nat.div_lt_self (by omega) (by omega)

/-- The bias for the next number, from the size of the last. -/
def adapt (delta size : Nat) (first : Bool) : Nat :=
  let delta := if first then delta / 700 else delta / 2
  let (delta, count) := shrink (delta + delta / size) 0
  count + 36 * delta / (delta + 38)

/-- Puts in the character that a finished number leads to. -/
def Decoder.insert (d : Decoder) (value : Nat) : Option Decoder :=
  let size := d.text.length + 1
  let steps := d.place + value
  let codePoint := d.codePoint + steps / size
  let place := steps % size
  if codePoint.isValidChar then
    some {
      text := d.text.take place ++ Char.ofNat codePoint :: d.text.drop place
      codePoint := codePoint
      place := place + 1
      bias := adapt value size d.first
      first := false }
  else none

/-- Numbers stay below this bound. -/
def bound : Nat := Nat.pow 2 32

/-- Takes one digit. -/
def Decoder.step (d : Decoder) (c : Char) : Option Decoder := do
  let digit ← digit? c
  let value := d.value + digit * d.weight
  let limit := threshold d.distance d.bias
  let weight := d.weight * (36 - limit)
  if bound ≤ d.place + value then none
  else if digit < limit then d.insert value
  else if bound ≤ weight then none
  else return { d with
    value := value
    weight := weight
    distance := d.distance + 36 }

/-- The text behind a label without its `xn--`: ASCII characters come first, up to the last hyphen
    if there are any, and no number may be left unfinished. -/
def decode? (label : List Char) : Option (List Char) := do
  let tail := (label.reverse.takeWhile (· ≠ '-')).reverse
  let plain := (label.take (label.length - tail.length)).dropLast
  let coded := if plain.isEmpty then label else tail
  let d ← coded.foldlM Decoder.step { text := plain }
  if d.weight = 1 then some d.text else none

/-! ## Encoding -/

/-- The digit of a value: letters first, then the decimal digits. -/
def digit (n : Nat) : Char := Char.ofNat (if n < 26 then 97 + n else 22 + n)

theorem threshold_pos (distance bias : Nat) : 1 ≤ threshold distance bias := by
  unfold threshold
  omega

theorem threshold_le (distance bias : Nat) : threshold distance bias ≤ 26 := by
  unfold threshold
  omega

/-- The digits of a number, the one that weighs least first. -/
def digits (bias distance n : Nat) : List Char :=
  let limit := threshold distance bias
  if n < limit then [digit n]
  else
    digit (limit + (n - limit) % (36 - limit)) ::
      digits bias (distance + 36) ((n - limit) / (36 - limit))
termination_by n
decreasing_by
  have := threshold_pos distance bias
  exact Nat.lt_of_le_of_lt (Nat.div_le_self _ _) (by omega)

/-- An encoder between two characters: its digits so far, last one first, the distance from the last
    character that was put in, and how many characters are in place. -/
structure Encoder where
  coded : List Char := []
  delta : Nat := 0
  bias : Nat := 72
  first : Bool := true
  placed : Nat

/-- Passes over a character of the text, and puts it in if it has the code point whose turn it is. -/
def Encoder.step (codePoint : Nat) (e : Encoder) (c : Char) : Encoder :=
  if c.toNat < codePoint then { e with delta := e.delta + 1 }
  else if c.toNat = codePoint then
    { coded := (digits e.bias 36 e.delta).reverse ++ e.coded
      delta := 0
      bias := adapt e.delta (e.placed + 1) e.first
      first := false
      placed := e.placed + 1 }
  else e

/-- Puts in all characters of a code point, `before` being the one whose turn it was before. -/
def Encoder.turn (text : List Char) (state : Nat × Encoder) (codePoint : Nat) : Nat × Encoder :=
  let (before, e) := state
  let e := text.foldl (Encoder.step codePoint)
    { e with delta := e.delta + (codePoint - before) * (e.placed + 1) }
  (codePoint + 1, { e with delta := e.delta + 1 })

/-- The code points beyond ASCII in a text, in increasing order. -/
def codePoints (text : List Char) : List Nat :=
  (((text.map Char.toNat).filter (128 ≤ ·)).mergeSort (· ≤ ·)).eraseDups

/-- The label of a text without its `xn--`. -/
def encode (text : List Char) : List Char :=
  let plain := text.filter (·.toNat < 128)
  let coded := (((codePoints text).foldl (Encoder.turn text)
    (128, { placed := plain.length })).2.coded).reverse
  if plain.isEmpty then coded else plain ++ '-' :: coded

end NetGauge.Text.Punycode
