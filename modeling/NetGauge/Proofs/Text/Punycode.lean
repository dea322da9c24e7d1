import Mathlib.Data.List.Basic
import Mathlib.Data.List.TakeWhile
import Mathlib.Tactic.SplitIfs
import NetGauge.Text.Punycode

set_option autoImplicit false

/-! # Labels and their texts

What an encoded label is made of: the ASCII characters of its text, a hyphen and digits (`mem_encode`), with a
digit last when the text has other characters (`getLast?_encode`). What a label decodes to has a character beyond
ASCII unless the label ends in a hyphen (`sound_of_decode?`). -/

namespace NetGauge.Text.Punycode

/-! ## Digits -/

/-- A digit of some value. -/
def IsDigit (c : Char) : Prop := ∃ n < 36, c = digit n

theorem IsDigit.ne_hyphen {c : Char} (h : IsDigit c) : c ≠ '-' := by
  have hne : ∀ n < 36, digit n ≠ '-' := by decide
  obtain ⟨n, hn, rfl⟩ := h
  exact hne n hn

theorem isDigit_of_mem_digits {bias distance n : Nat} {c : Char} (h : c ∈ digits bias distance n) : IsDigit c := by
  have hpos := threshold_pos distance bias
  have hle := threshold_le distance bias
  induction n using Nat.strongRecOn generalizing distance with
  | ind n ih =>
      rw [digits] at h
      by_cases hlast : n < threshold distance bias
      · rw [if_pos hlast, List.mem_singleton] at h
        exact ⟨n, by omega, h⟩
      · rw [if_neg hlast, List.mem_cons] at h
        rcases h with rfl | h
        · have hmod := Nat.mod_lt (n - threshold distance bias) (show 0 < 36 - threshold distance bias by omega)
          exact ⟨_, by omega, rfl⟩
        · refine ih _ ?_ h (threshold_pos _ _) (threshold_le _ _)
          exact Nat.lt_of_le_of_lt (Nat.div_le_self _ _) (by omega)

theorem digits_ne_nil (bias distance n : Nat) : digits bias distance n ≠ [] := by
  rw [digits]
  by_cases hlast : n < threshold distance bias <;> simp [hlast]

/-! ## Encoding -/

namespace Encoder

theorem coded_step (codePoint : Nat) (e : Encoder) (c : Char) :
    (e.step codePoint c).coded =
      (if c.toNat = codePoint then (digits e.bias 36 e.delta).reverse else []) ++ e.coded := by
  unfold step
  by_cases hlt : c.toNat < codePoint
  · have hne : ¬c.toNat = codePoint := by omega
    simp [hlt, hne]
  · by_cases heq : c.toNat = codePoint <;> simp [hlt, heq]

/-- All that was coded is digits. -/
def IsSound (e : Encoder) : Prop := ∀ c ∈ e.coded, IsDigit c

theorem IsSound.step {e : Encoder} (h : e.IsSound) (codePoint : Nat) (c : Char) :
    (e.step codePoint c).IsSound := by
  intro d hd
  rw [coded_step, List.mem_append] at hd
  rcases hd with hd | hd
  · by_cases heq : c.toNat = codePoint
    · rw [if_pos heq, List.mem_reverse] at hd
      exact isDigit_of_mem_digits hd
    · simp [heq] at hd
  · exact h d hd

theorem IsSound.foldl {e : Encoder} (h : e.IsSound) (codePoint : Nat) (text : List Char) :
    (text.foldl (Encoder.step codePoint) e).IsSound := by
  induction text generalizing e with
  | nil => exact h
  | cons c text ih => exact ih (h.step codePoint c)

theorem IsSound.turns {e : Encoder} (h : e.IsSound) (before : Nat) (text : List Char) (codePoints : List Nat) :
    (codePoints.foldl (turn text) (before, e)).2.IsSound := by
  induction codePoints generalizing before e with
  | nil => exact h
  | cons codePoint codePoints ih =>
      have hstart : IsSound { e with delta := e.delta + (codePoint - before) * (e.placed + 1) } := h
      refine ih ?_ (codePoint + 1)
      exact hstart.foldl codePoint text

/-- What is coded stays coded. -/
theorem coded_foldl_ne_nil {e : Encoder} (codePoint : Nat) {text : List Char}
    (h : e.coded ≠ [] ∨ ∃ c ∈ text, c.toNat = codePoint) : (text.foldl (step codePoint) e).coded ≠ [] := by
  induction text generalizing e with
  | nil => simpa using h
  | cons c text ih =>
      refine ih ?_
      rw [coded_step]
      rcases h with h | ⟨d, hd, heq⟩
      · simp [h]
      · rcases List.mem_cons.1 hd with rfl | hd
        · simp [heq, digits_ne_nil]
        · exact .inr ⟨d, hd, heq⟩

theorem coded_turns_ne_nil {state : Nat × Encoder} {text : List Char} {codePoints : List Nat}
    (h : state.2.coded ≠ [] ∨ ∃ c ∈ text, c.toNat ∈ codePoints) :
    (codePoints.foldl (turn text) state).2.coded ≠ [] := by
  induction codePoints generalizing state with
  | nil => simpa using h
  | cons codePoint codePoints ih =>
      obtain ⟨before, e⟩ := state
      refine ih ?_
      rcases h with h | ⟨c, hc, hmem⟩
      · have hstart : { e with delta := e.delta + (codePoint - before) * (e.placed + 1) : Encoder }.coded ≠ [] := h
        exact .inl (coded_foldl_ne_nil codePoint (.inl hstart))
      · rcases List.mem_cons.1 hmem with heq | hmem
        · exact .inl (coded_foldl_ne_nil codePoint (.inr ⟨c, hc, heq⟩))
        · exact .inr ⟨c, hc, hmem⟩

end Encoder

/-- The digits of a label. -/
def tail (text : List Char) : List Char :=
  (((codePoints text).foldl (Encoder.turn text)
    (128, { placed := (text.filter (·.toNat < 128)).length })).2.coded).reverse

theorem encode_eq (text : List Char) :
    encode text =
      if (text.filter (·.toNat < 128)).isEmpty then tail text
      else text.filter (·.toNat < 128) ++ '-' :: tail text := rfl

theorem isDigit_of_mem_tail {text : List Char} {c : Char} (h : c ∈ tail text) : IsDigit c := by
  rw [tail, List.mem_reverse] at h
  have hstart : Encoder.IsSound { placed := (text.filter (·.toNat < 128)).length } :=
    fun _ hc => absurd hc List.not_mem_nil
  exact hstart.turns 128 text (codePoints text) c h

/-- **What a label is made of.** -/
theorem mem_encode {text : List Char} {c : Char} (h : c ∈ encode text) :
    (c ∈ text ∧ c.toNat < 128) ∨ c = '-' ∨ IsDigit c := by
  rw [encode_eq] at h
  by_cases hplain : (text.filter (·.toNat < 128)).isEmpty
  · rw [if_pos hplain] at h
    exact .inr (.inr (isDigit_of_mem_tail h))
  · rw [if_neg hplain, List.mem_append, List.mem_cons, List.mem_filter] at h
    rcases h with ⟨hmem, hascii⟩ | rfl | h
    · exact .inl ⟨hmem, by simpa using hascii⟩
    · exact .inr (.inl rfl)
    · exact .inr (.inr (isDigit_of_mem_tail h))

theorem mem_codePoints {text : List Char} {n : Nat} : n ∈ codePoints text ↔ (∃ c ∈ text, c.toNat = n) ∧ 128 ≤ n := by
  simp [codePoints]

theorem tail_ne_nil {text : List Char} (h : ∃ c ∈ text, 128 ≤ c.toNat) : tail text ≠ [] := by
  obtain ⟨c, hc, hbeyond⟩ := h
  rw [tail, ne_eq, List.reverse_eq_nil_iff]
  exact Encoder.coded_turns_ne_nil (.inr ⟨c, hc, mem_codePoints.2 ⟨⟨c, hc, rfl⟩, hbeyond⟩⟩)

/-- The label of a text with characters beyond ASCII ends in a digit. -/
theorem getLast?_encode {text : List Char} (h : ∃ c ∈ text, 128 ≤ c.toNat) :
    ∃ c, (encode text).getLast? = some c ∧ IsDigit c := by
  have hne := tail_ne_nil h
  refine ⟨(tail text).getLast hne, ?_, isDigit_of_mem_tail (List.getLast_mem hne)⟩
  have hlast := List.getLast?_eq_some_getLast hne
  rw [encode_eq]
  by_cases hplain : (text.filter (·.toNat < 128)).isEmpty
  · rw [if_pos hplain, hlast]
  · rw [if_neg hplain, List.getLast?_append, List.getLast?_cons, hlast]
    rfl

/-! ## Decoding -/

theorem toNat_ofNat {n : Nat} (h : n.isValidChar) : (Char.ofNat n).toNat = n := by
  rw [Char.ofNat, dif_pos h]
  rfl

namespace Decoder

/-- What holds while a label is decoded: the characters so far are its own or beyond ASCII. -/
structure IsSound (label : List Char) (d : Decoder) : Prop where
  codePoint : 128 ≤ d.codePoint
  weight : 1 ≤ d.weight
  text : ∀ c ∈ d.text, c ∈ label ∨ 128 ≤ c.toNat

/-- A digit leaves its number open or ends it with a character beyond ASCII. -/
def HasBegun (d : Decoder) : Prop := 1 < d.weight ∨ ∃ c ∈ d.text, 128 ≤ c.toNat

variable {label : List Char} {d next : Decoder}

theorem IsSound.insert (h : d.IsSound label) {value : Nat} (hinsert : d.insert value = some next) :
    next.IsSound label ∧ next.HasBegun := by
  simp only [Decoder.insert] at hinsert
  have hbeyond : 128 ≤ d.codePoint + (d.place + value) / (d.text.length + 1) :=
    Nat.le_trans h.codePoint (Nat.le_add_right _ _)
  split at hinsert
  · next hvalid =>
      have hnat := toNat_ofNat hvalid
      injection hinsert with hnext
      subst hnext
      refine ⟨⟨hbeyond, Nat.le_refl 1, ?_⟩,
        .inr ⟨_, List.mem_append_right _ List.mem_cons_self, by rw [hnat]; exact hbeyond⟩⟩
      intro c hc
      rcases List.mem_append.1 hc with hc | hc
      · exact h.text c (List.mem_of_mem_take hc)
      · rcases List.mem_cons.1 hc with rfl | hc
        · exact .inr (by rw [hnat]; exact hbeyond)
        · exact h.text c (List.mem_of_mem_drop hc)
  · cases hinsert

/-- Every digit that is read keeps the characters sound, and none goes without effect. -/
theorem IsSound.step (h : d.IsSound label) {c : Char} (hstep : d.step c = some next) :
    next.IsSound label ∧ next.HasBegun := by
  simp only [Decoder.step, Option.bind_eq_bind, Option.bind_eq_some_iff] at hstep
  obtain ⟨digit, -, hstep⟩ := hstep
  have hpos := threshold_pos d.distance d.bias
  have hle := threshold_le d.distance d.bias
  have hweight : 10 * d.weight ≤ d.weight * (36 - threshold d.distance d.bias) := by
    rw [Nat.mul_comm]
    exact Nat.mul_le_mul_left _ (by omega)
  have hone := h.weight
  split_ifs at hstep with hvalue hlast hbound
  · exact h.insert hstep
  · injection hstep with hnext
    subst hnext
    exact ⟨⟨h.codePoint, by dsimp only; omega, h.text⟩, .inl (by dsimp only; omega)⟩

theorem IsSound.foldlM (h : d.IsSound label) {coded : List Char} (hbegun : coded = [] → d.HasBegun)
    (hread : coded.foldlM Decoder.step d = some next) : next.IsSound label ∧ next.HasBegun := by
  induction coded generalizing d with
  | nil =>
      cases hread
      exact ⟨h, hbegun rfl⟩
  | cons c coded ih =>
      obtain ⟨middle, hstep, hread⟩ := Option.bind_eq_some_iff.1 hread
      obtain ⟨hsound, hbegun⟩ := h.step hstep
      exact ih hsound (fun _ => hbegun) hread

end Decoder

/-- **What a label decodes to**: its own characters and others beyond ASCII, of which there are some if the label
    does not end in a hyphen. -/
theorem sound_of_decode? {label text : List Char} (h : decode? label = some text) (hne : label ≠ [])
    (hlast : label.getLast? ≠ some '-') :
    (∀ c ∈ text, c ∈ label ∨ 128 ≤ c.toNat) ∧ ∃ c ∈ text, 128 ≤ c.toNat := by
  obtain ⟨front, last, rfl⟩ : ∃ front last, label = front ++ [last] :=
    ⟨_, _, (List.dropLast_append_getLast hne).symm⟩
  have hdigit : last ≠ '-' := by simpa using hlast
  simp only [decode?, Option.bind_eq_bind, Option.bind_eq_some_iff] at h
  obtain ⟨d, hread, h⟩ := h
  -- The last character belongs to what is decoded, so that something is.
  have hcoded : ∀ plain : List Char, (if plain.isEmpty then front ++ [last]
      else ((front ++ [last]).reverse.takeWhile (· ≠ '-')).reverse) ≠ [] := by
    intro plain
    by_cases hplain : plain.isEmpty <;> simp [hplain, hdigit]
  have hstart : Decoder.IsSound (front ++ [last])
      { text := ((front ++ [last]).take ((front ++ [last]).length -
          ((front ++ [last]).reverse.takeWhile (· ≠ '-')).reverse.length)).dropLast } :=
    ⟨Nat.le_refl 128, Nat.le_refl 1, fun c hc => .inl (List.mem_of_mem_take (List.dropLast_subset _ hc))⟩
  obtain ⟨hsound, hbegun⟩ := hstart.foldlM (fun hnil => absurd hnil (hcoded _)) hread
  split at h
  · next hclosed =>
    injection h with htext
    subst htext
    exact ⟨hsound.text, hbegun.resolve_left (by omega)⟩
  · cases h

end NetGauge.Text.Punycode
