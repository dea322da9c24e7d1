import NetGauge.Text.Digits

set_option autoImplicit false

/-! # Percent encoding

A byte can be written as `%` and two hexadecimal digits. Encoding writes the characters that its
user cannot have as they are; decoding gives back bytes and leaves a `%` alone that begins no byte. -/

namespace NetGauge.Text

/-- A digit of a byte in capitals. -/
def hexCapital (n : Nat) : Char := if n < 10 then Char.ofNat (48 + n) else Char.ofNat (55 + n)

/-- A byte in its written form. -/
def percentByte (b : UInt8) : List Char := ['%', hexCapital (b.toNat / 16), hexCapital (b.toNat % 16)]

/-- Writes the characters that satisfy `escape` as their bytes. -/
def percentEncode (escape : Char → Bool) (cs : List Char) : List Char :=
  cs.flatMap (fun c => if escape c then (String.utf8EncodeChar c).flatMap percentByte else [c])

/-- The byte that two hexadecimal digits stand for. -/
def hexByte? (high low : Char) : Option UInt8 := do
  return UInt8.ofNat (16 * (← hexDigit? high) + (← hexDigit? low))

/-- The bytes of a text in which some are percent-encoded. -/
def percentDecode : List Char → List UInt8
  | [] => []
  | '%' :: high :: low :: rest =>
    match hexByte? high low with
    | some b => b :: percentDecode rest
    | none => 37 :: percentDecode (high :: low :: rest)
  | c :: rest => String.utf8EncodeChar c ++ percentDecode rest

/-- Text in which nothing has to be escaped stays as it is. -/
theorem percentEncode_of_not_escaped (escape : Char → Bool) (cs : List Char)
    (h : ∀ c ∈ cs, escape c = false) : percentEncode escape cs = cs := by
  induction cs with
  | nil => rfl
  | cons c rest ih =>
    simp only [List.mem_cons, forall_eq_or_imp] at h
    have := ih h.2
    simp only [percentEncode] at this
    simp [percentEncode, h.1, this]

/-! ## What is written and read -/

variable {escape : Char → Bool} {cs : List Char}

theorem exists_of_mem_percentByte {b : UInt8} {c : Char} (h : c ∈ percentByte b) :
    c = '%' ∨ ∃ n < 16, c = hexCapital n := by
  have hb := b.toNat_lt
  simp only [percentByte, List.mem_cons, List.not_mem_nil, or_false] at h
  rcases h with rfl | rfl | rfl
  · exact .inl rfl
  · exact .inr ⟨_, by omega, rfl⟩
  · exact .inr ⟨_, by omega, rfl⟩

/-- What encoded text is made of. -/
theorem mem_percentEncode {c : Char} (h : c ∈ percentEncode escape cs) :
    (c ∈ cs ∧ escape c = false) ∨ c = '%' ∨ ∃ n < 16, c = hexCapital n := by
  obtain ⟨d, hd, hc⟩ := List.mem_flatMap.1 h
  by_cases hescape : escape d = true
  · rw [if_pos hescape] at hc
    obtain ⟨b, -, hc⟩ := List.mem_flatMap.1 hc
    exact .inr (exists_of_mem_percentByte hc)
  · rw [if_neg hescape, List.mem_singleton] at hc
    subst hc
    exact .inl ⟨hd, by simpa using hescape⟩

/-- Nothing that has to be escaped is left, if what stands for it has not to be. -/
theorem not_escaped_of_mem_percentEncode (hpercent : escape '%' = false)
    (hcapital : ∀ n < 16, escape (hexCapital n) = false) {c : Char} (h : c ∈ percentEncode escape cs) :
    escape c = false := by
  rcases mem_percentEncode h with ⟨-, hc⟩ | rfl | ⟨n, hn, rfl⟩
  · exact hc
  · exact hpercent
  · exact hcapital n hn

theorem percentEncode_ne_nil (h : cs ≠ []) : percentEncode escape cs ≠ [] := by
  obtain ⟨c, rest, rfl⟩ := List.exists_cons_of_ne_nil h
  have hbytes : String.utf8EncodeChar c ≠ [] := by
    have hpos := Char.utf8Size_pos c
    rw [← String.length_utf8EncodeChar] at hpos
    exact List.ne_nil_of_length_pos hpos
  obtain ⟨b, bytes, hcons⟩ := List.exists_cons_of_ne_nil hbytes
  by_cases hc : escape c = true <;> simp [percentEncode, hc, hcons, percentByte]

/-- Text without a percent sign stands for its own bytes. -/
theorem percentDecode_of_not_mem (h : '%' ∉ cs) :
    percentDecode cs = cs.flatMap String.utf8EncodeChar := by
  induction cs with
  | nil => rfl
  | cons c cs ih =>
      simp only [List.mem_cons, not_or] at h
      rw [percentDecode, ih h.2, List.flatMap_cons]
      intro _ _ _ heq
      exact absurd heq.symm h.1

end NetGauge.Text
