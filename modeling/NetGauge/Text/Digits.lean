set_option autoImplicit false

/-! # Digits

Numbers in a written base, up to sixteen. -/

namespace NetGauge.Text

/-- The value of a hexadecimal digit of either case. -/
def hexDigit? (c : Char) : Option Nat :=
  let n := c.toNat
  if 48 ≤ n ∧ n ≤ 57 then some (n - 48)
  else if 65 ≤ n ∧ n ≤ 70 then some (n - 55)
  else if 97 ≤ n ∧ n ≤ 102 then some (n - 87)
  else none

/-- A number with one digit more, which must be below the base. -/
def appendDigit? (base n : Nat) (c : Char) : Option Nat :=
  (hexDigit? c).bind (fun d => if d < base then some (n * base + d) else none)

/-- The value of digits in a base. No digits are zero. -/
def digitsValue? (base : Nat) (digits : List Char) : Option Nat :=
  digits.foldlM (appendDigit? base) 0

/-- The last digit is appended to the value of those before it. -/
theorem digitsValue?_concat (base : Nat) (digits : List Char) (c : Char) :
    digitsValue? base (digits ++ [c]) =
      (digitsValue? base digits).bind (fun n => appendDigit? base n c) := by
  simp [digitsValue?, List.foldlM_append]

end NetGauge.Text
