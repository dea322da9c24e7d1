import NetGauge.Proofs.Json.Literal

set_option autoImplicit false

/-! # The texts of doubles

A finite double is written as a number: in positional notation or with an exponent, with a fraction that
is never empty and no needless zero before it, since the digits of its shortest decimal are those of a
number that is not zero (`shortest_ne_zero`). What is no number is written as null. So the text of a double
is always a literal, and it is that of null exactly for what is no number (`floatText_literal`). -/

namespace NetGauge.Json

open Decimal

/-! ## Finite doubles -/

/-- The exponent bits as they are taken out of the word of a double. -/
theorem toNat_unpackExponent (x : Float) :
    (@Float.Model.UnpackedFloat.unpackExponent .binary64 x.toBits.toBitVec).toNat =
      x.toBits.toNat / Nat.pow 2 52 % Nat.pow 2 11 := by
  simp [Float.Model.UnpackedFloat.unpackExponent, Nat.shiftRight_eq_div_pow]

/-- A double is finite unless all its exponent bits are set. -/
theorem isFinite_iff_exponent (x : Float) :
    x.isFinite = true ↔ x.toBits.toNat / Nat.pow 2 52 % Nat.pow 2 11 ≠ 2047 := by
  have hones (e : BitVec 11) : e = -1#11 ↔ e.toNat = 2047 := by
    rw [← BitVec.toNat_inj]
    rfl
  show (Float.Model.UnpackedFloat.unpack .binary64 x.toBits.toBitVec).isFinite = true ↔ _
  rw [← toNat_unpackExponent, ne_eq, ← hones]
  delta Float.Model.UnpackedFloat.unpack
  dsimp only
  by_cases hset : @Float.Model.UnpackedFloat.unpackExponent .binary64 x.toBits.toBitVec = -1#11
  · rw [if_pos hset]
    refine iff_of_false ?_ (not_not_intro hset)
    split <;> exact Bool.false_ne_true
  · rw [if_neg hset]
    refine iff_of_true ?_ hset
    by_cases hexponent : @Float.Model.UnpackedFloat.unpackExponent .binary64 x.toBits.toBitVec = 0#11
    · rw [if_pos hexponent]
      by_cases hmantissa : @Float.Model.UnpackedFloat.unpackMantissa .binary64 x.toBits.toBitVec = 0#52
      · rw [dif_pos hmantissa]
        rfl
      · rw [dif_neg hmantissa]
        rfl
    · rw [if_neg hexponent]
      rfl

/-- A double is finite if it has a mantissa and an exponent. -/
theorem isFinite_iff (x : Float) :
    x.isFinite = true ↔
      ∃ negative mantissa exponent, Binary64.ofFloat x = .finite negative mantissa exponent := by
  rw [isFinite_iff_exponent]
  simp only [Binary64.ofFloat, Binary64.ofBits, beq_iff_eq]
  split
  · next hset => split <;> simp [hset]
  · next hset => split <;> simp [hset]

/-! ## The digits of the shortest decimal -/

section

variable {s : Scientific}

theorem nearestInside_ne_zero {i : RoundingInterval} {value : Ratio} {e : Int}
    (h : nearestInside i value e = some s) : s.digits ≠ 0 := by
  unfold nearestInside at h
  dsimp only at h
  split at h
  · next hbelow _ =>
      have hlow : value.floorAt e ≠ 0 := by simp_all
      split at h <;> cases h
      · exact hlow
      · exact Nat.succ_ne_zero _
  · next hbelow _ =>
      have hlow : value.floorAt e ≠ 0 := by simp_all
      cases h
      exact hlow
  · cases h
    exact Nat.succ_ne_zero _
  · cases h

theorem refine_ne_zero {i : RoundingInterval} {value : Ratio} {fuel : Nat} {e : Int}
    (h : refine i value fuel e = some s) : s.digits ≠ 0 := by
  induction fuel generalizing e with
  | zero => cases h
  | succ fuel ih =>
      rw [Decimal.refine] at h
      split at h
      · next hfound =>
          cases h
          exact nearestInside_ne_zero hfound
      · exact ih h

theorem normalize_ne_zero (fuel : Nat) (h : s.digits ≠ 0) : (s.normalize fuel).digits ≠ 0 := by
  induction fuel generalizing s with
  | zero => exact h
  | succ fuel ih =>
      rw [Scientific.normalize]
      split
      · next htrailing =>
          refine ih ?_
          simp only [bne_iff_ne, ne_eq, Bool.and_eq_true, beq_iff_eq] at htrailing
          show s.digits / 10 ≠ 0
          omega
      · exact h

/-- The shortest decimal of a double that is not zero is not zero. -/
theorem shortest_ne_zero {mantissa : Nat} (h : mantissa ≠ 0) (exponent : Int) :
    (shortest mantissa exponent).digits ≠ 0 := by
  unfold shortest
  dsimp only
  split
  · next hfound => exact normalize_ne_zero 20 (refine_ne_zero hfound)
  · exact h

end

/-! ## Numerals -/

/-- Digits make a run if there are any. -/
theorem exists_digitRun {digits : List Char} (hne : digits ≠ []) (h : ∀ c ∈ digits, isDigit c = true) :
    ∃ run : DigitRun, run.text = digits := by
  cases digits with
  | nil => exact absurd rfl hne
  | cons c more => exact ⟨⟨c, more, (List.forall_mem_cons.1 h).1, (List.forall_mem_cons.1 h).2⟩, rfl⟩

/-- Digits that may stand before the point: one or more, without a needless zero. -/
structure Whole (digits : List Char) : Prop where
  isDigit : ∀ c ∈ digits, isDigit c = true
  ne_nil : digits ≠ []
  leading : ∀ more, digits = '0' :: more → more = []

/-- A number is made of digits, a fraction and an exponent. -/
theorem exists_numeral (negative : Bool) {whole : List Char} (hwhole : Whole whole)
    (fraction : Option DigitRun) (exponent : Option Exponent) :
    ∃ n : Numeral, n.negative = negative ∧ n.fraction = fraction ∧ n.exponent = exponent ∧
      n.whole.text = whole := by
  obtain ⟨run, rfl⟩ := exists_digitRun hwhole.ne_nil hwhole.isDigit
  refine ⟨⟨negative, run, fraction, exponent, ?_⟩, rfl, rfl, rfl, rfl⟩
  intro hzero
  exact hwhole.leading run.more (by rw [DigitRun.text, hzero])

/-- The digits of a natural number. -/
theorem isDigit_natDigits (n : Nat) : ∀ c ∈ natDigits n, isDigit c = true :=
  fun _ hc => Nat.isDigit_of_mem_toDigits (by decide) (by decide) hc

theorem natDigits_ne_nil (n : Nat) : natDigits n ≠ [] := by
  obtain ⟨c, more, htext, -⟩ := natDigits_begins n
  rw [htext]
  exact List.cons_ne_nil c more

theorem isDigit_replicate (n : Nat) : ∀ c ∈ List.replicate n '0', isDigit c = true := by
  intro c hc
  rw [List.eq_of_mem_replicate hc]
  rfl

/-- What begins like a number that is not zero has no needless zero. -/
theorem whole_of_prefix {n : Nat} (hn : n ≠ 0) {k : Nat} (hk : k ≠ 0) {more : List Char}
    (hmore : ∀ c ∈ more, isDigit c = true) : Whole ((natDigits n).take k ++ more) := by
  obtain ⟨c, text, htext, hzero⟩ := natDigits_cons n
  obtain ⟨k, rfl⟩ := Nat.exists_eq_succ_of_ne_zero hk
  refine ⟨?_, ?_, ?_⟩
  · intro d hd
    rcases List.mem_append.1 hd with hd | hd
    · exact isDigit_natDigits n d (List.mem_of_mem_take hd)
    · exact hmore d hd
  · rw [htext]
    nofun
  · intro later heq
    rw [htext] at heq
    exact absurd (hzero (List.head_eq_of_cons_eq heq)) hn

theorem whole_take {n : Nat} (hn : n ≠ 0) {k : Nat} (hk : k ≠ 0) : Whole ((natDigits n).take k) := by
  have hwhole := whole_of_prefix hn hk (List.forall_mem_nil _)
  rwa [List.append_nil] at hwhole

theorem isDigit_zero : ∀ c ∈ ['0'], isDigit c = true := List.forall_mem_singleton.2 rfl

theorem whole_zero : Whole ['0'] where
  isDigit := isDigit_zero
  ne_nil := by decide
  leading := by rintro more ⟨⟩; rfl

/-- A fraction that stands behind such digits, without an exponent. -/
theorem exists_numeral_fraction (negative : Bool) {whole fraction : List Char} (hwhole : Whole whole)
    (hne : fraction ≠ []) (hfraction : ∀ c ∈ fraction, isDigit c = true) :
    ∃ n : Numeral, n.negative = negative ∧ n.unsigned = whole ++ '.' :: fraction := by
  obtain ⟨run, rfl⟩ := exists_digitRun hne hfraction
  obtain ⟨n, hnegative, hrun, hexponent, hwholeText⟩ := exists_numeral negative hwhole (some run) none
  refine ⟨n, hnegative, ?_⟩
  simp [Numeral.unsigned, Numeral.tail, Numeral.scale, hrun, hexponent, hwholeText]

/-- **Positional notation is a number.** -/
theorem positional_numeral (negative : Bool) {n : Nat} (hn : n ≠ 0) (point : Int) :
    ∃ m : Numeral, m.negative = negative ∧ m.unsigned = positional (natDigits n) point := by
  have hdigits := isDigit_natDigits n
  unfold positional
  split
  · next k =>
      refine exists_numeral_fraction negative whole_zero ?_ ?_
      · simp
      · exact List.forall_mem_append.2 ⟨isDigit_replicate (k + 1), hdigits⟩
  · next k =>
      split
      · exact exists_numeral_fraction negative whole_zero (natDigits_ne_nil n) hdigits
      · next hk =>
          have hk : k ≠ 0 := by simpa using hk
          split
          · next hshort =>
              refine exists_numeral_fraction negative (whole_take hn hk) ?_ ?_
              · simpa using hshort
              · exact fun c hc => hdigits c (List.mem_of_mem_drop hc)
          · next hlong =>
              have hwhole := whole_of_prefix hn hk (isDigit_replicate (k - (natDigits n).length))
              rw [List.take_of_length_le (by omega)] at hwhole
              obtain ⟨m, hnegative, htext⟩ := exists_numeral_fraction negative hwhole
                (List.cons_ne_nil '0' []) isDigit_zero
              exact ⟨m, hnegative, by rw [htext, List.append_assoc]⟩

/-- Exponent notation ends with an exponent. -/
theorem scientific_exponent (e : Int) :
    ∃ x : Exponent, ∀ digits, scientific digits e =
      (if digits.length ≤ 1 then digits else digits.take 1 ++ '.' :: digits.drop 1) ++ x.text := by
  have hmark (sign : Char) (hsign : sign = '+' ∨ sign = '-') (n : Nat) :
      ∃ x : Exponent, x.text = 'e' :: sign :: natDigits n := by
    obtain ⟨run, hrun⟩ := exists_digitRun (natDigits_ne_nil n) (isDigit_natDigits n)
    refine ⟨⟨'e', some sign, run, .inl rfl, by simpa using hsign⟩, ?_⟩
    simp [Exponent.text, Exponent.behind, hrun]
  cases e with
  | ofNat n =>
      obtain ⟨x, hx⟩ := hmark '+' (.inl rfl) n
      exact ⟨x, fun digits => by rw [hx, scientific]⟩
  | negSucc n =>
      obtain ⟨x, hx⟩ := hmark '-' (.inr rfl) (n + 1)
      exact ⟨x, fun digits => by rw [hx, scientific]⟩

/-- **Exponent notation is a number.** -/
theorem scientific_numeral (negative : Bool) {n : Nat} (hn : n ≠ 0) (e : Int) :
    ∃ m : Numeral, m.negative = negative ∧ m.unsigned = scientific (natDigits n) e := by
  obtain ⟨x, hx⟩ := scientific_exponent e
  rw [hx]
  split
  · have hwhole := whole_take hn Nat.one_ne_zero
    rw [List.take_of_length_le ‹_›] at hwhole
    obtain ⟨m, hnegative, hfraction, hexponent, htext⟩ := exists_numeral negative hwhole none (some x)
    refine ⟨m, hnegative, ?_⟩
    simp [Numeral.unsigned, Numeral.tail, Numeral.scale, hfraction, hexponent, htext]
  · next hmore =>
      have hwhole := whole_take hn Nat.one_ne_zero
      have hdrop : (natDigits n).drop 1 ≠ [] := by
        rw [ne_eq, List.drop_eq_nil_iff]
        exact hmore
      obtain ⟨run, hrun⟩ := exists_digitRun hdrop fun c hc => isDigit_natDigits n c (List.mem_of_mem_drop hc)
      obtain ⟨m, hnegative, hfraction, hexponent, htext⟩ :=
        exists_numeral negative hwhole (some run) (some x)
      refine ⟨m, hnegative, ?_⟩
      simp [Numeral.unsigned, Numeral.tail, Numeral.scale, hfraction, hexponent, htext, hrun]

/-- **A finite double is written as a number.** -/
theorem floatText_numeral {x : Float} (h : x.isFinite = true) : ∃ n : Numeral, n.text = floatText x := by
  obtain ⟨negative, mantissa, exponent, hx⟩ := (isFinite_iff x).1 h
  obtain ⟨n, hnegative, htext⟩ : ∃ n : Numeral, n.negative = negative ∧ n.unsigned =
      if mantissa == 0 then ['0', '.', '0'] else decimalText (shortest mantissa exponent) := by
    split
    · exact exists_numeral_fraction negative whole_zero (List.cons_ne_nil '0' []) isDigit_zero
    · next hmantissa =>
        have hdigits := shortest_ne_zero (by simpa using hmantissa) exponent
        unfold decimalText
        dsimp only
        split
        · exact positional_numeral negative hdigits _
        · exact scientific_numeral negative hdigits _
  refine ⟨n, ?_⟩
  rw [floatText, hx, Numeral.text, hnegative, htext]
  cases negative <;> rfl

/-- What is no number is written as null. -/
theorem floatText_of_not_isFinite {x : Float} (h : ¬x.isFinite = true) :
    floatText x = ['n', 'u', 'l', 'l'] := by
  rw [isFinite_iff] at h
  unfold floatText
  split
  · rfl
  · rfl
  · next hx => exact absurd ⟨_, _, _, hx⟩ h

/-- The text of a double is a literal: a number if it is finite, and null if not. -/
theorem floatText_literal (x : Float) :
    ∃ l : Literal, l.text = floatText x ∧ (x.isFinite = true → ∃ n, l = .number n) ∧
      (¬x.isFinite = true → l = .null) := by
  by_cases h : x.isFinite = true
  · obtain ⟨n, hn⟩ := floatText_numeral h
    exact ⟨.number n, hn, fun _ => ⟨n, rfl⟩, fun hnot => absurd h hnot⟩
  · exact ⟨.null, (floatText_of_not_isFinite h).symm, fun hfinite => absurd hfinite h, fun _ => rfl⟩

end NetGauge.Json
