import NetGauge.Decimal.Shortest
import NetGauge.Json.Value

set_option autoImplicit false

/-! # The text of a number

Integers are plain digits. A double is written with the fewest digits that read back: positional
from `0.00001` up to but excluding ten to the sixteenth, with `.0` on a whole number, and beyond
that with one digit before the point and a signed exponent. What is not a number is `null`. -/

namespace NetGauge.Json

open NetGauge.Decimal

/-- Decimal digits of a natural number. -/
def natDigits (n : Nat) : List Char := Nat.toDigits 10 n

/-- An integer with its sign. -/
def intText : Int → List Char
  | .ofNat n => natDigits n
  | .negSucc n => '-' :: natDigits (n + 1)

/-- Digits in positional notation; the point stands `point` digits from the left. -/
def positional (digits : List Char) (point : Int) : List Char :=
  match point with
  | .negSucc k => '0' :: '.' :: (List.replicate (k + 1) '0' ++ digits)
  | .ofNat k =>
    if k == 0 then '0' :: '.' :: digits
    else if k < digits.length then digits.take k ++ '.' :: digits.drop k
    else digits ++ (List.replicate (k - digits.length) '0' ++ ['.', '0'])

/-- Digits in exponent notation; `e` is the exponent of the first digit. -/
def scientific (digits : List Char) (e : Int) : List Char :=
  let mantissa := if digits.length ≤ 1 then digits else digits.take 1 ++ '.' :: digits.drop 1
  let mark := match e with
    | .ofNat n => '+' :: natDigits n
    | .negSucc n => '-' :: natDigits (n + 1)
  mantissa ++ 'e' :: mark

/-- A decimal in the notation that its size asks for. -/
def decimalText (s : Scientific) : List Char :=
  let digits := natDigits s.digits
  let point : Int := s.exponent + digits.length
  if -4 ≤ point ∧ point ≤ 16 then positional digits point else scientific digits (point - 1)

/-- The text of a double. -/
def floatText (x : Float) : List Char :=
  match Binary64.ofFloat x with
  | .nan => ['n', 'u', 'l', 'l']
  | .infinite _ => ['n', 'u', 'l', 'l']
  | .finite negative mantissa exponent =>
    let body :=
      if mantissa == 0 then ['0', '.', '0'] else decimalText (shortest mantissa exponent)
    if negative then '-' :: body else body

/-- The text of a number. -/
def Number.text : Number → List Char
  | .integer n => intText n
  | .float x => floatText x

end NetGauge.Json
