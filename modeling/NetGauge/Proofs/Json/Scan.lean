import NetGauge.Json.Scan
import NetGauge.Json.Writer

set_option autoImplicit false

/-! # Reading back strings and integers

A string literal is read back whatever its characters are: each of them is either written as it is or
as an escape that stands for it. An integer within sixty-four bits is read back as itself, provided that
nothing follows that would make another number of it; behind a value in a written text nothing does
(`AfterValue`). -/

namespace NetGauge.Json

/-! ## Strings -/

theorem hexFour_hexDigit (n : Nat) (h : n < 32) :
    hexFour '0' '0' (hexDigit (n / 16)) (hexDigit (n % 16)) = some n := by
  have key : ∀ k : Fin 32, hexFour '0' '0' (hexDigit (k / 16)) (hexDigit (k % 16)) = some k.val := by
    decide
  exact key ⟨n, h⟩

/-- A character that is neither the end of the literal nor special stands for itself. -/
theorem stringFrom_plain (done : List Char) (c : Char) (rest : List Char) (hquote : c ≠ '"')
    (hbackslash : c ≠ '\\') (hcontrol : ¬c.toNat < 0x20) :
    stringFrom done (c :: rest) = stringFrom (c :: done) rest := by
  rw [stringFrom.eq_def]
  simp only [hquote, hbackslash, hcontrol, if_false]

theorem eq_ofNat_of_toNat_eq {c : Char} {n : Nat} (h : c.toNat = n) : c = Char.ofNat n := by
  rw [← h, Char.ofNat_toNat]

/-- Four digits stand for a control. -/
theorem stringFrom_control (done : List Char) (c : Char) (rest : List Char) (h : c.toNat < 0x20) :
    stringFrom done ('\\' :: 'u' :: '0' :: '0' :: hexDigit (c.toNat / 16) ::
      hexDigit (c.toNat % 16) :: rest) = stringFrom (c :: done) rest := by
  rw [stringFrom.eq_def]
  have hlead : isLeadSurrogate c.toNat = false := by simp [isLeadSurrogate]; omega
  have htrail : isTrailSurrogate c.toNat = false := by simp [isTrailSurrogate]; omega
  simp only [Char.reduceEq, if_false, if_true, hexFour_hexDigit c.toNat h, hlead, htrail,
    Char.ofNat_toNat, Bool.false_eq_true]

/-- What stands for a character is read as this character. -/
theorem stringFrom_escapeChar (done : List Char) (c : Char) (rest : List Char) :
    stringFrom done (escapeChar c ++ rest) = stringFrom (c :: done) rest := by
  unfold escapeChar
  split
  · next h => subst h; rfl
  split
  · next h => subst h; rfl
  split
  · next hquote hbackslash hcontrol =>
      split
      · next h => rw [eq_ofNat_of_toNat_eq h]; rfl
      · next h => rw [eq_ofNat_of_toNat_eq h]; rfl
      · next h => rw [eq_ofNat_of_toNat_eq h]; rfl
      · next h => rw [eq_ofNat_of_toNat_eq h]; rfl
      · next h => rw [eq_ofNat_of_toNat_eq h]; rfl
      · exact stringFrom_control done c rest hcontrol
  · next hquote hbackslash hcontrol => exact stringFrom_plain done c rest hquote hbackslash hcontrol

theorem stringFrom_flatMap (done cs rest : List Char) :
    stringFrom done (cs.flatMap escapeChar ++ '"' :: rest) =
      .ok (String.ofList (done.reverse ++ cs), rest) := by
  induction cs generalizing done with
  | nil =>
      rw [stringFrom.eq_def]
      simp
  | cons c cs ih =>
      rw [List.flatMap_cons, List.append_assoc, stringFrom_escapeChar, ih]
      simp

/-- A string literal is read back. -/
theorem string_stringText (s : String) (rest : List Char) :
    string (s.toList.flatMap escapeChar ++ ['"'] ++ rest) = .ok (s, rest) := by
  rw [List.append_assoc, List.singleton_append, string, stringFrom_flatMap]
  simp

/-! ## Integers -/

/-- What may follow a value in a written text. -/
def AfterValue : List Char → Prop
  | [] => True
  | c :: _ => c = ',' ∨ c = ']' ∨ c = '}'

namespace AfterValue

variable {rest : List Char}

theorem startsWithDigit_eq (h : AfterValue rest) : startsWithDigit rest = false := by
  cases rest with
  | nil => rfl
  | cons c rest => rcases h with rfl | rfl | rfl <;> rfl

theorem startsWithExponent_eq (h : AfterValue rest) : startsWithExponent rest = false := by
  cases rest with
  | nil => rfl
  | cons c rest => rcases h with rfl | rfl | rfl <;> rfl

theorem takeWhile_isDigit (h : AfterValue rest) : rest.takeWhile isDigit = [] := by
  cases rest with
  | nil => rfl
  | cons c rest => rcases h with rfl | rfl | rfl <;> rfl

theorem dropWhile_isDigit (h : AfterValue rest) : rest.dropWhile isDigit = rest := by
  cases rest with
  | nil => rfl
  | cons c rest => rcases h with rfl | rfl | rfl <;> rfl

theorem ne_point (h : AfterValue rest) (more : List Char) : rest ≠ '.' :: more := by
  rintro rfl
  rcases h with h | h | h <;> cases h

end AfterValue

theorem le_ofDigitChars (digits : List Char) (value : Nat) :
    value ≤ Nat.ofDigitChars 10 digits value := by
  induction digits generalizing value with
  | nil => simp
  | cons c digits ih =>
      rw [Nat.ofDigitChars_cons]
      exact Nat.le_trans (by omega) (ih _)

/-- Digits whose value stays within the bound are all taken. -/
theorem takeDigits_append {bound : Nat} {digits rest : List Char} {value : Nat} (count : Nat)
    (hdigits : ∀ c ∈ digits, isDigit c = true) (hbound : Nat.ofDigitChars 10 digits value ≤ bound)
    (hrest : startsWithDigit rest = false) :
    takeDigits bound value count (digits ++ rest) =
      ⟨Nat.ofDigitChars 10 digits value, count + digits.length, rest⟩ := by
  induction digits generalizing value count with
  | nil =>
      cases rest with
      | nil => rfl
      | cons c rest =>
          have hc : isDigit c = false := hrest
          simp [takeDigits, hc]
  | cons c digits ih =>
      have hvalue : Nat.ofDigitChars 10 (c :: digits) value =
          Nat.ofDigitChars 10 digits (value * 10 + digitValue c) := by
        rw [Nat.ofDigitChars_cons, Nat.mul_comm]
        rfl
      rw [hvalue] at hbound ⊢
      have hnext := Nat.le_trans (le_ofDigitChars digits _) hbound
      have htaken := ih (count + 1) (fun d hd => hdigits d (List.mem_cons_of_mem c hd)) hbound
      rw [List.cons_append, takeDigits, if_pos (by simp [hdigits c, hnext]), htaken,
        List.length_cons, Nat.add_right_comm, Nat.add_assoc]

/-- Only zero is written with a leading zero. -/
theorem natDigits_cons (n : Nat) : ∃ c text, natDigits n = c :: text ∧ (c = '0' → n = 0) := by
  induction n using Nat.strongRecOn with
  | _ n ih =>
      by_cases hn : n < 10
      · exact ⟨_, [], Nat.toDigits_of_lt_base hn, Nat.digitChar_eq_zero.1⟩
      · -- The first digit is the one of the number without its last digit, which is not zero.
        obtain ⟨c, text, hdigits, hzero⟩ := ih (n / 10) (by omega)
        refine ⟨c, text ++ [(n % 10).digitChar], ?_, fun hc => ?_⟩
        · rw [natDigits, Nat.toDigits_of_base_le (by decide) (by omega), ← natDigits, hdigits]
          rfl
        · have := hzero hc
          omega

/-- An integer that fits the word is read back, up to its sign. -/
theorem numberFrom_natDigits (negative : Bool) {n : Nat} {rest : List Char} (hn : n ≤ wordMax)
    (hrest : AfterValue rest) :
    numberFrom negative (natDigits n ++ rest) = .ok (integerResult negative n, rest) := by
  obtain ⟨c, text, htext, hzero⟩ := natDigits_cons n
  have hall : ∀ d ∈ c :: text, isDigit d = true := by
    rw [← htext]
    exact fun d hd => Nat.isDigit_of_mem_toDigits (by decide) (by decide) hd
  have hleading : (decide (c = '0') && startsWithDigit (text ++ rest)) = false := by
    by_cases hc : c = '0'
    · rw [hzero hc, natDigits, Nat.toDigits_zero] at htext
      cases htext
      simp [hrest.startsWithDigit_eq]
    · simp [hc]
  have hvalue : Nat.ofDigitChars 10 text (digitValue c) = n := by
    have hten : Nat.ofDigitChars 10 (natDigits n) 0 = n := Nat.ofDigitChars_ten_toDigits
    rwa [htext, Nat.ofDigitChars_cons, Nat.mul_zero, Nat.zero_add] at hten
  have htaken := takeDigits_append 1 (fun d hd => hall d (List.mem_cons_of_mem c hd))
    (hvalue ▸ hn) hrest.startsWithDigit_eq
  rw [hvalue] at htaken
  rw [htext, List.cons_append, numberFrom, hall c List.mem_cons_self, hleading, htaken]
  simp only [Bool.not_true, Bool.false_eq_true, if_false, hrest.takeWhile_isDigit,
    hrest.dropWhile_isDigit]
  split
  · next more => exact absurd rfl (hrest.ne_point more)
  · rw [if_neg (by simp [hrest.startsWithExponent_eq])]
    rfl

/-- A negative integer within sixty-four bits does not become a double. -/
theorem integerResult_negSucc {n : Nat} (hn : n < Nat.pow 2 63) :
    integerResult true (n + 1) = .integer (.negSucc n) := by
  have hlarge : ¬Nat.pow 2 63 < n + 1 := by omega
  simp [integerResult, hlarge, Int.negSucc_eq]

/-! ## How a number begins -/

theorem natDigits_begins (n : Nat) : ∃ c text, natDigits n = c :: text ∧ isDigit c = true := by
  obtain ⟨c, text, htext, -⟩ := natDigits_cons n
  refine ⟨c, text, htext, Nat.isDigit_of_mem_toDigits (n := n) (by decide) (Nat.le_refl 10) ?_⟩
  rw [← natDigits, htext]
  exact List.mem_cons_self

theorem positional_begins {c : Char} (text : List Char) (hc : isDigit c = true) (point : Int) :
    ∃ d more, positional (c :: text) point = d :: more ∧ isDigit d = true := by
  unfold positional
  split
  · exact ⟨'0', _, rfl, rfl⟩
  · next k =>
      split
      · exact ⟨'0', _, rfl, rfl⟩
      split
      · cases k with
        | zero => contradiction
        | succ k => exact ⟨c, _, rfl, hc⟩
      · exact ⟨c, _, rfl, hc⟩

theorem decimalText_begins (s : Decimal.Scientific) :
    ∃ c more, decimalText s = c :: more ∧ isDigit c = true := by
  obtain ⟨c, text, htext, hc⟩ := natDigits_begins s.digits
  unfold decimalText
  rw [htext]
  dsimp only
  split
  · exact positional_begins text hc _
  · unfold scientific
    dsimp only
    split
    · exact ⟨c, _, rfl, hc⟩
    · exact ⟨c, _, rfl, hc⟩

/-- The text of a number begins with a digit or a sign; what is not a number is null. -/
theorem Number.text_begins (n : Number) :
    ∃ c more, n.text = c :: more ∧ (isDigit c = true ∨ c = '-' ∨ c = 'n') := by
  have hnat : ∀ n, ∃ c more, natDigits n = c :: more ∧ (isDigit c = true ∨ c = '-' ∨ c = 'n') := by
    intro n
    obtain ⟨c, more, htext, hc⟩ := natDigits_begins n
    exact ⟨c, more, htext, .inl hc⟩
  cases n with
  | integer z =>
      cases z with
      | ofNat n => exact hnat n
      | negSucc n => exact ⟨'-', _, rfl, .inr (.inl rfl)⟩
  | float x =>
      show ∃ c more, floatText x = c :: more ∧ (isDigit c = true ∨ c = '-' ∨ c = 'n')
      unfold floatText
      split
      · exact ⟨'n', _, rfl, .inr (.inr rfl)⟩
      · exact ⟨'n', _, rfl, .inr (.inr rfl)⟩
      · dsimp only
        split
        · exact ⟨'-', _, rfl, .inr (.inl rfl)⟩
        split
        · exact ⟨'0', _, rfl, .inl rfl⟩
        · obtain ⟨c, more, htext, hc⟩ := decimalText_begins (Decimal.shortest _ _)
          exact ⟨c, more, htext, .inl hc⟩

end NetGauge.Json
