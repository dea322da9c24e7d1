import NetGauge.Decimal.Binary64

set_option autoImplicit false

/-! # The shortest decimal that reads back

Of all decimals that round to a given double, `shortest` gives one with the fewest digits, and of
those the one nearest to the double. The search goes over the number of digits: a decimal grid
with `n` digits holds a point of the rounding interval exactly when one of the two grid points
next to the double lies in it, and seventeen digits are always enough. -/

namespace NetGauge.Decimal

/-- A positive rational, kept as a pair so that comparisons are exact. -/
structure Ratio where
  num : Nat
  den : Nat
  deriving Repr

namespace Ratio

/-- `k * 2 ^ e` -/
def ofBinary (k : Nat) : Int → Ratio
  | .ofNat e => ⟨k * Nat.pow 2 e, 1⟩
  | .negSucc e => ⟨k, Nat.pow 2 (e + 1)⟩

/-- `k * 10 ^ e` -/
def ofDecimal (k : Nat) : Int → Ratio
  | .ofNat e => ⟨k * Nat.pow 10 e, 1⟩
  | .negSucc e => ⟨k, Nat.pow 10 (e + 1)⟩

def lt (a b : Ratio) : Bool := a.num * b.den < b.num * a.den

def le (a b : Ratio) : Bool := a.num * b.den ≤ b.num * a.den

/-- How far apart two rationals are. -/
def distance (a b : Ratio) : Ratio :=
  let x := a.num * b.den
  let y := b.num * a.den
  ⟨(x - y) + (y - x), a.den * b.den⟩

/-- The rational divided by `10 ^ e` and rounded down. -/
def floorAt (a : Ratio) : Int → Nat
  | .ofNat e => a.num / (a.den * Nat.pow 10 e)
  | .negSucc e => a.num * Nat.pow 10 (e + 1) / a.den

/-- The exponent of the leading decimal digit of a positive rational. -/
def leadingExponent (a : Ratio) : Int :=
  let guess : Int := (Nat.toDigits 10 a.num).length - (Nat.toDigits 10 a.den).length
  if (ofDecimal 1 guess).le a then guess else guess - 1

end Ratio

/-- The reals that round to a double: the ends belong to them when `closed` holds. -/
structure RoundingInterval where
  low : Ratio
  high : Ratio
  closed : Bool
  deriving Repr

/-- The interval around `mantissa * 2 ^ exponent`. Below a power of two the neighbours are twice
    as dense, except at the bottom of the range. -/
def RoundingInterval.around (mantissa : Nat) (exponent : Int) : RoundingInterval where
  low :=
    if mantissa == Nat.pow 2 52 && exponent != -1074 then .ofBinary (4 * mantissa - 1) (exponent - 2)
    else .ofBinary (2 * mantissa - 1) (exponent - 1)
  high := .ofBinary (2 * mantissa + 1) (exponent - 1)
  closed := mantissa % 2 == 0

def RoundingInterval.contains (i : RoundingInterval) (a : Ratio) : Bool :=
  if i.closed then i.low.le a && a.le i.high else i.low.lt a && a.lt i.high

/-- A decimal `digits * 10 ^ exponent`. -/
structure Scientific where
  digits : Nat
  exponent : Int
  deriving Repr, DecidableEq

/-- The better of the two grid points next to `value` on the grid of multiples of `10 ^ e`. -/
def nearestInside (i : RoundingInterval) (value : Ratio) (e : Int) : Option Scientific :=
  let low := value.floorAt e
  let below := Ratio.ofDecimal low e
  let above := Ratio.ofDecimal (low + 1) e
  match i.contains below && low != 0, i.contains above with
  | true, true =>
    let down := value.distance below
    let up := value.distance above
    if down.lt up || (!up.lt down && low % 2 == 0) then some ⟨low, e⟩ else some ⟨low + 1, e⟩
  | true, false => some ⟨low, e⟩
  | false, true => some ⟨low + 1, e⟩
  | false, false => none

/-- Tries grids that are finer by one digit each time. -/
def refine (i : RoundingInterval) (value : Ratio) : Nat → Int → Option Scientific
  | 0, _ => none
  | fuel + 1, e =>
    match nearestInside i value e with
    | some s => some s
    | none => refine i value fuel (e - 1)

/-- A decimal without trailing zero digits. -/
def Scientific.normalize : Nat → Scientific → Scientific
  | 0, s => s
  | fuel + 1, s =>
    if s.digits != 0 && s.digits % 10 == 0 then normalize fuel ⟨s.digits / 10, s.exponent + 1⟩ else s

/-- The shortest decimal for the positive double `mantissa * 2 ^ exponent`. -/
def shortest (mantissa : Nat) (exponent : Int) : Scientific :=
  let value := Ratio.ofBinary mantissa exponent
  match refine (.around mantissa exponent) value 18 value.leadingExponent with
  | some s => s.normalize 20
  | none => ⟨mantissa, exponent⟩

end NetGauge.Decimal
