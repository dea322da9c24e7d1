import NetGauge.Decimal.Binary64

set_option autoImplicit false

/-! # Decimal texts with a fixed number of places

The exact value of a double is rounded to the asked number of places, a half going to the even
neighbour. The sign of a negative number is kept even where every digit is zero, huge values are
written with all their digits, and the values that are not numbers have names of their own. -/

namespace NetGauge.Decimal

/-- `mantissa * 2 ^ exponent * 10 ^ places`, rounded to a natural number. -/
def scaled (places mantissa : Nat) (exponent : Int) : Nat :=
  match exponent with
  | .ofNat e => mantissa * Nat.pow 2 e * Nat.pow 10 places
  | .negSucc e => roundHalfEven (mantissa * Nat.pow 10 places) (Nat.pow 2 (e + 1))

/-- The digits of `n` with a point before the last `places` of them. -/
def withPoint (places n : Nat) : List Char :=
  let whole := Nat.toDigits 10 (n / Nat.pow 10 places)
  if places == 0 then whole
  else
    let part := Nat.toDigits 10 (n % Nat.pow 10 places)
    whole ++ '.' :: (List.replicate (places - part.length) '0' ++ part)

/-- A double with `places` digits after the point. -/
def fixed (places : Nat) (x : Float) : String :=
  match Binary64.ofFloat x with
  | .nan => "NaN"
  | .infinite false => "inf"
  | .infinite true => "-inf"
  | .finite negative mantissa exponent =>
    let body := withPoint places (scaled places mantissa exponent)
    String.ofList (if negative then '-' :: body else body)

end NetGauge.Decimal
