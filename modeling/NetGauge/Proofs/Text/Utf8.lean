import Mathlib.Tactic.SplitIfs
import NetGauge.Text.Utf8

set_option autoImplicit false

/-! # Bytes of a text

What is encoded is decoded, character by character (`decodeFrom_encode`). A newline leaves the decoder at
rest even in the middle of a character, so that decoding can be cut behind it (`decodeFrom_append`). -/

namespace NetGauge.Text

theorem decodeFrom_cons (state : Option Partial) (b : UInt8) (rest : List UInt8) :
    decodeFrom state (b :: rest) =
      (decodeByte state b.toNat).1 ++ decodeFrom (decodeByte state b.toNat).2 rest := rfl

/-! ## Decoding what was encoded -/

theorem lead_two {b : Nat} (h : 0xC2 ≤ b ∧ b ≤ 0xDF) : lead b = .part ⟨b - 0xC0, 1, 0x80, 0xBF⟩ := by
  rw [lead, if_neg (by omega), if_pos h]

theorem lead_three {b : Nat} (h : 0xE0 ≤ b ∧ b ≤ 0xEF) :
    lead b =
      .part ⟨b - 0xE0, 2, if b = 0xE0 then 0xA0 else 0x80, if b = 0xED then 0x9F else 0xBF⟩ := by
  rw [lead, if_neg (by omega), if_neg (by omega)]
  by_cases hfirst : b = 0xE0
  · simp [hfirst]
  · by_cases hsurrogates : b = 0xED
    · simp [hsurrogates]
    · have hothers : 0xE1 ≤ b ∧ b ≤ 0xEF := by omega
      simp [hfirst, hsurrogates, hothers]

theorem lead_four {b : Nat} (h : 0xF0 ≤ b ∧ b ≤ 0xF4) :
    lead b =
      .part ⟨b - 0xF0, 3, if b = 0xF0 then 0x90 else 0x80, if b = 0xF4 then 0x8F else 0xBF⟩ := by
  rw [lead, if_neg (by omega), if_neg (by omega), if_neg (by omega), if_neg (by omega), if_neg (by omega)]
  by_cases hfirst : b = 0xF0
  · simp [hfirst]
  · by_cases hlast : b = 0xF4
    · simp [hlast]
    · have hbetween : 0xF1 ≤ b ∧ b ≤ 0xF3 := by omega
      simp [hfirst, hlast, hbetween]

section

variable {p : Partial} {b : UInt8} {rest : List UInt8}

/-- The first byte of a character of several bytes. -/
theorem decodeFrom_lead (h : lead b.toNat = .part p) : decodeFrom none (b :: rest) = decodeFrom (some p) rest := by
  simp [decodeFrom_cons, decodeByte, begin, h]

/-- The byte with six bits of a character behind the first ones. -/
theorem toNat_continuation (n : Nat) : (UInt8.ofNat (n % 64 + 128)).toNat = n % 64 + 128 := by
  have hbits := Nat.mod_lt n (show 0 < 64 by decide)
  exact UInt8.toNat_ofNat_of_lt' (show n % 64 + 128 < 256 by omega)

/-- A byte in the middle of a character. -/
theorem decodeFrom_middle {n : Nat} (h : p.low ≤ n % 64 + 128 ∧ n % 64 + 128 ≤ p.high) (hmissing : 1 < p.missing) :
    decodeFrom (some p) (UInt8.ofNat (n % 64 + 128) :: rest) =
      decodeFrom (some ⟨p.bits * 64 + n % 64, p.missing - 1, 0x80, 0xBF⟩) rest := by
  have hmore : ¬p.missing ≤ 1 := by omega
  have hbits : (n % 64 + 128) % 64 = n % 64 := by omega
  rw [decodeFrom_cons, toNat_continuation]
  simp [decodeByte, h, hmore, hbits]

/-- The last byte of a character. -/
theorem decodeFrom_last {n : Nat} (h : p.low ≤ n % 64 + 128 ∧ n % 64 + 128 ≤ p.high) (hmissing : p.missing ≤ 1) :
    decodeFrom (some p) (UInt8.ofNat (n % 64 + 128) :: rest) =
      Char.ofNat (p.bits * 64 + n % 64) :: decodeFrom none rest := by
  have hbits : (n % 64 + 128) % 64 = n % 64 := by omega
  rw [decodeFrom_cons, toNat_continuation]
  simp [decodeByte, h, hmissing, hbits]

end

/-- **A character is decoded from its bytes.** -/
theorem decodeFrom_encodeChar (c : Char) (rest : List UInt8) :
    decodeFrom none (String.utf8EncodeChar c ++ rest) = c :: decodeFrom none rest := by
  have hvalid : c.toNat < 0xD800 ∨ 0xDFFF < c.toNat ∧ c.toNat < 0x110000 := c.valid
  have hc := Char.ofNat_toNat c
  have hval : c.val.toNat = c.toNat := rfl
  unfold String.utf8EncodeChar
  simp only [hval]
  generalize c.toNat = v at hvalid hc
  split_ifs with hone htwo hthree
  · have hb : (UInt8.ofNat v).toNat = v := by simp; omega
    have hlead : lead v = .whole c := by rw [lead, if_pos (by omega), hc]
    simp [decodeFrom_cons, hb, decodeByte, begin, hlead]
  · have hb : (UInt8.ofNat (v / 64 % 32 + 192)).toNat = v / 64 + 192 := by simp; omega
    have hbits : (v / 64 + 192 - 0xC0) * 64 + v % 64 = v := by omega
    simp only [List.cons_append, List.nil_append]
    rw [decodeFrom_lead (by rw [hb]; exact lead_two (by omega)),
      decodeFrom_last (by dsimp only; omega) (by dsimp only; omega), hbits, hc]
  · have hb : (UInt8.ofNat (v / 4096 % 16 + 224)).toNat = v / 4096 + 224 := by simp; omega
    have hbits : ((v / 4096 + 224 - 0xE0) * 64 + v / 64 % 64) * 64 + v % 64 = v := by omega
    simp only [List.cons_append, List.nil_append]
    rw [decodeFrom_lead (by rw [hb]; exact lead_three (by omega)),
      decodeFrom_middle (by dsimp only; split_ifs <;> omega) (by dsimp only; omega),
      decodeFrom_last (by dsimp only; omega) (by dsimp only; omega), hbits, hc]
  · have hb : (UInt8.ofNat (v / 262144 % 8 + 240)).toNat = v / 262144 + 240 := by simp; omega
    have hbits : (((v / 262144 + 240 - 0xF0) * 64 + v / 4096 % 64) * 64 + v / 64 % 64) * 64 + v % 64 = v := by omega
    simp only [List.cons_append, List.nil_append]
    rw [decodeFrom_lead (by rw [hb]; exact lead_four (by omega)),
      decodeFrom_middle (by dsimp only; split_ifs <;> omega) (by dsimp only; omega),
      decodeFrom_middle (by dsimp only; omega) (by dsimp only; omega),
      decodeFrom_last (by dsimp only; omega) (by dsimp only; omega), hbits, hc]

/-- **A text is decoded from its bytes.** -/
theorem decodeFrom_encode (cs : List Char) : decodeFrom none (cs.flatMap String.utf8EncodeChar) = cs := by
  induction cs with
  | nil => rfl
  | cons c cs ih => rw [List.flatMap_cons, decodeFrom_encodeChar, ih]

/-! ## Decoding up to a newline -/

/-- The byte of a newline. -/
def newline : UInt8 := 10

/-- Bytes that end with a newline. -/
def EndsLine (bytes : List UInt8) : Prop := bytes.getLast? = some newline

/-- A character that has begun goes on with a byte beyond ASCII. -/
theorem low_of_lead {b : Nat} {p : Partial} (h : lead b = .part p) : 10 < p.low := by
  unfold lead at h
  split_ifs at h <;> injection h with hp <;> subst hp <;> simp

theorem low_of_begin {b : Nat} {p : Partial} (h : p ∈ (begin b).2) : 10 < p.low := by
  unfold begin at h
  split at h
  · simp at h
  · next q hlead =>
      simp only [Option.mem_def, Option.some.injEq] at h
      subst h
      exact low_of_lead hlead
  · simp at h

theorem low_of_decodeByte {state : Option Partial} {b : Nat} {p : Partial}
    (h : p ∈ (decodeByte state b).2) : 10 < p.low := by
  unfold decodeByte at h
  split at h
  · exact low_of_begin h
  · split_ifs at h
    · simp at h
    · simp only [Option.mem_def, Option.some.injEq] at h
      subst h
      simp
    · exact low_of_begin h

/-- A newline comes out of the decoder last, whatever was unfinished before it. -/
theorem decodeByte_newline_fst {state : Option Partial} (h : ∀ p ∈ state, 10 < p.low) :
    ∃ front, (decodeByte state 10).1 = front ++ ['\n'] := by
  cases state with
  | none => exact ⟨[], rfl⟩
  | some p =>
      have hp := h p rfl
      have hn : ¬(p.low ≤ 10 ∧ 10 ≤ p.high) := by omega
      exact ⟨[replacement], by simp [decodeByte, hn, begin, lead]⟩

/-- Decoding can be cut behind a newline, and there a line of the text ends. -/
theorem decodeFrom_closed (state : Option Partial) (hstate : ∀ p ∈ state, 10 < p.low) (front : List UInt8) :
    ∃ line, ∀ rest, decodeFrom state (front ++ newline :: rest) = line ++ '\n' :: decodeFrom none rest := by
  induction front generalizing state with
  | nil =>
      obtain ⟨before, hbefore⟩ := decodeByte_newline_fst hstate
      refine ⟨before, fun rest => ?_⟩
      have hrest := decodeByte_newline state hstate
      have hten : newline.toNat = 10 := rfl
      rw [List.nil_append, decodeFrom_cons, hten, hbefore, hrest, List.append_assoc, List.singleton_append]
  | cons b front ih =>
      obtain ⟨line, hline⟩ := ih (decodeByte state b.toNat).2 (fun p hp => low_of_decodeByte hp)
      refine ⟨(decodeByte state b.toNat).1 ++ line, fun rest => ?_⟩
      rw [List.cons_append, decodeFrom_cons, hline, List.append_assoc]

/-- A chunk that ends with a newline is decoded to lines, and what comes behind it is decoded as if the
    chunk had not been. -/
theorem decodeFrom_append {chunk : List UInt8} (h : EndsLine chunk) :
    ∃ line, decodeFrom none chunk = line ++ ['\n'] ∧
      ∀ rest, decodeFrom none (chunk ++ rest) = line ++ '\n' :: decodeFrom none rest := by
  obtain ⟨front, rfl⟩ := List.getLast?_eq_some_iff.1 h
  obtain ⟨line, hline⟩ := decodeFrom_closed none (by simp) front
  refine ⟨line, ?_, fun rest => ?_⟩
  · rw [hline, decodeFrom]
    rfl
  · rw [List.append_assoc, List.singleton_append, hline]

end NetGauge.Text
