set_option autoImplicit false

/-! # Bytes as text

Bytes are decoded as UTF-8. What is not valid becomes the replacement character, once for every
longest run of bytes that could have begun a character. The decoder is a machine that takes one
byte at a time, so that decoding can be cut wherever the machine is at rest. -/

namespace NetGauge.Text

/-- A character of which some bytes have come: its bits so far, how many bytes are missing, and the
    range in which the next one must lie. -/
structure Partial where
  bits : Nat
  missing : Nat
  low : Nat
  high : Nat

/-- What the first byte of a character says: the character itself, what must follow, or nothing. -/
inductive Lead where
  | whole (c : Char)
  | part (p : Partial)
  | bad

/-- Reads the first byte of a character. The narrower ranges shut out longer encodings than needed,
    surrogates, and code points beyond the last. -/
def lead (b : Nat) : Lead :=
  if b < 0x80 then .whole (Char.ofNat b)
  else if 0xC2 ≤ b ∧ b ≤ 0xDF then .part ⟨b - 0xC0, 1, 0x80, 0xBF⟩
  else if b = 0xE0 then .part ⟨0, 2, 0xA0, 0xBF⟩
  else if b = 0xED then .part ⟨0xD, 2, 0x80, 0x9F⟩
  else if 0xE1 ≤ b ∧ b ≤ 0xEF then .part ⟨b - 0xE0, 2, 0x80, 0xBF⟩
  else if b = 0xF0 then .part ⟨0, 3, 0x90, 0xBF⟩
  else if 0xF1 ≤ b ∧ b ≤ 0xF3 then .part ⟨b - 0xF0, 3, 0x80, 0xBF⟩
  else if b = 0xF4 then .part ⟨4, 3, 0x80, 0x8F⟩
  else .bad

/-- Stands for what is not valid. -/
def replacement : Char := '\uFFFD'

/-- Takes a byte at rest: what it decodes to, and the character it begins. -/
def begin (b : Nat) : List Char × Option Partial :=
  match lead b with
  | .whole c => ([c], none)
  | .part p => ([], some p)
  | .bad => ([replacement], none)

/-- Takes one byte. -/
def decodeByte (state : Option Partial) (b : Nat) : List Char × Option Partial :=
  match state with
  | none => begin b
  | some p =>
    if p.low ≤ b ∧ b ≤ p.high then
      let bits := p.bits * 64 + b % 64
      if p.missing ≤ 1 then ([Char.ofNat bits], none)
      else ([], some ⟨bits, p.missing - 1, 0x80, 0xBF⟩)
    else
      let (cs, next) := begin b
      (replacement :: cs, next)

/-- Decodes bytes from a state of the machine. -/
def decodeFrom (state : Option Partial) : List UInt8 → List Char
  | [] => if state.isSome then [replacement] else []
  | b :: rest =>
    let (cs, next) := decodeByte state b.toNat
    cs ++ decodeFrom next rest

/-- Decodes bytes, replacing what is not valid. -/
def decodeLossy (bytes : List UInt8) : String := String.ofList (decodeFrom none bytes)

/-- A newline leaves the machine at rest, whatever came before. -/
theorem decodeByte_newline (state : Option Partial) (h : ∀ p ∈ state, 10 < p.low) :
    (decodeByte state 10).2 = none := by
  cases state with
  | none => rfl
  | some p =>
    have hp := h p rfl
    have hn : ¬(p.low ≤ 10 ∧ 10 ≤ p.high) := by omega
    simp [decodeByte, hn, begin, lead]

end NetGauge.Text
