set_option autoImplicit false

/-! # What a double stands for

A double is decoded from its bits into a sign, a natural mantissa and a power of two, so that its
decimal texts can be computed in exact natural arithmetic. -/

namespace NetGauge.Decimal

/-- A double taken apart: `finite s m q` is `m * 2 ^ q`, negated when `s` holds. -/
inductive Binary64 where
  | nan
  | infinite (negative : Bool)
  | finite (negative : Bool) (mantissa : Nat) (exponent : Int)
  deriving Repr, DecidableEq

/-- Reads the sign, the eleven exponent bits and the fifty-two fraction bits. Exponent field zero
    holds the subnormal numbers and zero itself, which have no hidden leading bit. -/
def Binary64.ofBits (bits : UInt64) : Binary64 :=
  let word := bits.toNat
  let negative := word / Nat.pow 2 63 == 1
  let field : Nat := word / Nat.pow 2 52 % Nat.pow 2 11
  let fraction : Nat := word % Nat.pow 2 52
  if field == 2047 then
    if fraction == 0 then .infinite negative else .nan
  else if field == 0 then
    .finite negative fraction (-1074)
  else
    .finite negative (Nat.pow 2 52 + fraction) ((field : Int) - 1075)

/-- The parts of a double. -/
def Binary64.ofFloat (x : Float) : Binary64 :=
  .ofBits x.toBits

/-- The quotient rounded to the nearest natural number, a half to the even neighbour. -/
def roundHalfEven (num den : Nat) : Nat :=
  let low := num / den
  let twice := 2 * (num % den)
  if twice < den then low
  else if den < twice then low + 1
  else low + low % 2

/-- Rounding moves a value by at most one half. -/
theorem roundHalfEven_near (num den : Nat) (h : 0 < den) :
    2 * (roundHalfEven num den * den) ≤ 2 * num + den ∧
      2 * num ≤ 2 * (roundHalfEven num den * den) + den := by
  have hd := Nat.div_add_mod num den
  have hm := Nat.mod_lt num h
  unfold roundHalfEven
  simp only
  generalize num / den = low at *
  generalize num % den = r at *
  have hcomm : den * low = low * den := Nat.mul_comm _ _
  split
  · constructor <;> omega
  · split
    · rw [Nat.add_mul, Nat.one_mul]; constructor <;> omega
    · rcases Nat.mod_two_eq_zero_or_one low with h2 | h2
      · rw [h2, Nat.add_zero]; constructor <;> omega
      · rw [h2, Nat.add_mul, Nat.one_mul]; constructor <;> omega

/-- A quotient that is a natural number is left alone. -/
theorem roundHalfEven_mul (k den : Nat) (h : 0 < den) : roundHalfEven (k * den) den = k := by
  simp [roundHalfEven, Nat.mul_div_cancel _ h, Nat.mul_mod_left, h]

end NetGauge.Decimal
