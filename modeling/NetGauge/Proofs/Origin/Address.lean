import NetGauge.Origin.Address
import NetGauge.Proofs.Text.Pieces

set_option autoImplicit false

/-! # Addresses read back

The text of an address is read as that address again (`Ipv4.parse?_text`, `Ipv6.parse?_text`). An address of
version 4 is written in the plainest of the ways that are read. In the text of version 6 the double colon
stands for the longest run of zeros: what is left of the pieces leads back to the whole because the run holds
nothing but zeros (`Ipv6.take_longestZeros`), and the reader finds the double colon because single colons
stand apart everywhere else (`Ipv6.cut?_colons`). -/

namespace NetGauge.Origin

/-! ## Version 4 -/

namespace Ipv4

/-- The decimal digits of the bytes of an address. -/
def decimals (a : Ipv4) : List (List Char) := a.bytes.map (fun b => Nat.toDigits 10 b.toNat)

theorem part?_decimal : ∀ n < 256, part? (Nat.toDigits 10 n) = some n := by decide +kernel

theorem part?_byte (b : UInt8) : part? (Nat.toDigits 10 b.toNat) = some b.toNat :=
  part?_decimal b.toNat b.toNat_lt

theorem toList_text (a : Ipv4) : a.text.toList = ['.'].intercalate a.decimals := by
  have hdot : ".".toList = ['.'] := rfl
  rw [text, String.toList_intercalate, decimals, List.map_map, hdot]
  congr 1
  exact List.map_congr_left fun b _ => Nat.toList_repr

/-- A digit of a byte is a decimal digit. -/
theorem isDigit_of_mem_decimals {a : Ipv4} {digits : List Char} (h : digits ∈ a.decimals) :
    ∀ c ∈ digits, c.isDigit = true := by
  obtain ⟨b, -, rfl⟩ := List.mem_map.1 h
  exact fun c hc => Nat.isDigit_of_mem_toDigits (by decide) (by decide) hc

theorem parts_text (a : Ipv4) : parts a.text.toList = a.decimals := by
  have hdot : ∀ digits ∈ a.decimals, '.' ∉ digits := by
    intro digits hdigits hmem
    exact absurd (isDigit_of_mem_decimals hdigits '.' hmem) (by decide)
  have hsplit : a.text.toList.splitOn '.' = a.decimals := by
    rw [toList_text]
    exact List.splitOn_intercalate '.' hdot (by simp [decimals, bytes])
  have hlast : a.decimals.getLast? = some (Nat.toDigits 10 a.fourth.toNat) := rfl
  have hsome : ¬a.decimals.getLast? = some [] := by
    rw [hlast, Option.some.injEq]
    exact Nat.toDigits_ne_nil
  simp only [parts, hsplit, if_neg hsome]

theorem ofParts?_bytes (a : Ipv4) : ofParts? (a.bytes.map UInt8.toNat) = some a := by
  obtain ⟨b, c, d, e⟩ := a
  have hb := b.toNat_lt
  have hc := c.toNat_lt
  have hd := d.toNat_lt
  have he := e.toNat_lt
  simp [ofParts?, bytes, bytesOf, hb, hc, hd, he]

/-- **An address reads back.** -/
theorem parse?_text (a : Ipv4) : parse? a.text.toList = some a := by
  have hread : a.decimals.mapM part? = some (a.bytes.map UInt8.toNat) := by
    simp [decimals, bytes, part?_byte]
  rw [parse?, parts_text, hread]
  exact ofParts?_bytes a

/-- The text of an address is meant as one. -/
theorem isMeant_text (a : Ipv4) : isMeant a.text.toList = true := by
  have hlast : (parts a.text.toList).getLast? = some (Nat.toDigits 10 a.fourth.toNat) := by
    rw [parts_text]
    rfl
  simp [isMeant, hlast, part?_byte]

end Ipv4

/-! ## Version 6 -/

namespace Ipv6

open Text (hexDigit? appendDigit? digitsValue? digitsValue?_concat)

theorem hexDigit?_digitChar : ∀ d < 16, hexDigit? d.digitChar = some d := by decide

/-- Hexadecimal digits have the value that they were written for. -/
theorem digitsValue?_toDigits (n : Nat) : digitsValue? 16 (Nat.toDigits 16 n) = some n := by
  induction n using Nat.strongRecOn with
  | ind n ih =>
      by_cases hsmall : n < 16
      · rw [Nat.toDigits_of_lt_base hsmall]
        simp [digitsValue?, appendDigit?, hexDigit?_digitChar n hsmall, hsmall]
      · have hdigit : n % 16 < 16 := Nat.mod_lt n (by decide)
        rw [Nat.toDigits_of_base_le (by decide) (by omega), digitsValue?_concat, ih (n / 16) (by omega)]
        simp only [Option.bind_some, appendDigit?, hexDigit?_digitChar _ hdigit, if_pos hdigit]
        congr 1
        omega

/-- The hexadecimal digits of a piece. -/
def hex (p : UInt16) : List Char := Nat.toDigits 16 p.toNat

theorem piece?_hex (p : UInt16) : piece? (hex p) = some p := by
  have hsize : (hex p).length ≤ 4 := (Nat.length_toDigits_le_iff (by decide) (by decide)).2 p.toNat_lt
  have hsome : 1 ≤ (hex p).length := Nat.length_toDigits_pos
  rw [piece?, if_pos ⟨hsome, hsize⟩, hex, digitsValue?_toDigits]
  simp

theorem exists_of_mem_hex {p : UInt16} {c : Char} (h : c ∈ hex p) : ∃ d < 16, c = d.digitChar := by
  have hdigits : ∀ n : Nat, ∀ c ∈ Nat.toDigits 16 n, ∃ d < 16, c = d.digitChar := by
    intro n
    induction n using Nat.strongRecOn with
    | ind n ih =>
        intro c hc
        by_cases hsmall : n < 16
        · rw [Nat.toDigits_of_lt_base hsmall, List.mem_singleton] at hc
          exact ⟨n, hsmall, hc⟩
        · rw [Nat.toDigits_of_base_le (by decide) (by omega), List.mem_append, List.mem_singleton] at hc
          rcases hc with hc | hc
          · exact ih (n / 16) (by omega) c hc
          · exact ⟨n % 16, Nat.mod_lt n (by decide), hc⟩
  exact hdigits _ c h

/-- The digits of a piece are neither points nor colons. -/
theorem mem_hex {p : UInt16} {c : Char} (h : c ∈ hex p) : c ≠ '.' ∧ c ≠ ':' := by
  have hdigit : ∀ d < 16, d.digitChar ≠ '.' ∧ d.digitChar ≠ ':' := by decide
  obtain ⟨d, hd, rfl⟩ := exists_of_mem_hex h
  exact hdigit d hd

/-! ### Pieces between colons -/

/-- Pieces in hexadecimal digits, with colons between them. -/
def colons (ps : List UInt16) : List Char := [':'].intercalate (ps.map hex)

theorem toList_joined (ps : List UInt16) : (joined ps).toList = colons ps := by
  have hcolon : ":".toList = [':'] := rfl
  rw [joined, String.toList_intercalate, colons, List.map_map, hcolon]
  congr 1
  exact List.map_congr_left fun p _ => String.toList_ofList

theorem colons_cons_cons (p q : UInt16) (ps : List UInt16) :
    colons (p :: q :: ps) = hex p ++ ':' :: colons (q :: ps) := by
  simp [colons, List.intercalate_cons_of_ne_nil]

theorem exists_colons_cons (p : UInt16) (ps : List UInt16) :
    ∃ c rest, colons (p :: ps) = c :: rest ∧ c ≠ ':' := by
  obtain ⟨c, digits, hhex⟩ : ∃ c digits, hex p = c :: digits :=
    List.exists_cons_of_ne_nil Nat.toDigits_ne_nil
  have hc : c ≠ ':' := (mem_hex (by rw [hhex]; exact List.mem_cons_self)).2
  cases ps with
  | nil => exact ⟨c, digits, by simp [colons, hhex], hc⟩
  | cons q ps => exact ⟨c, digits ++ ':' :: colons (q :: ps), by rw [colons_cons_cons, hhex, List.cons_append], hc⟩

theorem splitOn_colons {ps : List UInt16} (h : ps ≠ []) : (colons ps).splitOn ':' = ps.map hex := by
  refine List.splitOn_intercalate ':' ?_ (by simpa using h)
  intro digits hdigits hcolon
  obtain ⟨p, -, rfl⟩ := List.mem_map.1 hdigits
  exact (mem_hex hcolon).2 rfl

theorem mapM_piece?_hex (ps : List UInt16) : (ps.map hex).mapM piece? = some ps := by
  induction ps with
  | nil => rfl
  | cons p ps ih => simp [piece?_hex, ih]

theorem isEmpty_colons (p : UInt16) (ps : List UInt16) : (colons (p :: ps)).isEmpty = false := by
  obtain ⟨c, rest, hcons, -⟩ := exists_colons_cons p ps
  rw [hcons]
  rfl

theorem pieces?_colons (ps : List UInt16) : pieces? (colons ps) = some ps := by
  cases ps with
  | nil => rfl
  | cons p ps =>
      rw [pieces?, isEmpty_colons, if_neg (by decide), splitOn_colons (List.cons_ne_nil p ps), mapM_piece?_hex]

theorem lastPieces?_colons (ps : List UInt16) : lastPieces? (colons ps) = some ps := by
  cases ps with
  | nil => rfl
  | cons p ps =>
      have hpoint : ((((p :: ps).map hex).getLast?).getD []).contains '.' = false := by
        obtain ⟨q, -, hlast⟩ : ∃ q ∈ p :: ps, ((p :: ps).map hex).getLast? = some (hex q) :=
          ⟨(p :: ps).getLast (by simp), List.getLast_mem _, by
            rw [List.getLast?_map, List.getLast?_eq_some_getLast (by simp)]
            rfl⟩
        rw [hlast]
        simpa using fun hmem : '.' ∈ hex q => (mem_hex hmem).1 rfl
      simp only [lastPieces?, isEmpty_colons, splitOn_colons (List.cons_ne_nil p ps), hpoint, mapM_piece?_hex]
      rfl

/-! ### The double colon -/

theorem cut?_cons {c : Char} (h : c ≠ ':') (rest : List Char) :
    cut? (c :: rest) = (cut? rest).map (fun (before, after) => (c :: before, after)) := by
  rw [cut?]
  intro _ heq _
  exact h heq

theorem cut?_colon {c : Char} (h : c ≠ ':') (rest : List Char) :
    cut? (':' :: c :: rest) = (cut? (c :: rest)).map (fun (before, after) => (':' :: before, after)) := by
  rw [cut?]
  intro _ _ heq
  exact h (List.cons.inj heq).1

theorem cut?_append {front : List Char} (h : ':' ∉ front) (rest : List Char) :
    cut? (front ++ rest) = (cut? rest).map (fun (before, after) => (front ++ before, after)) := by
  induction front with
  | nil => cases h : cut? rest <;> simp [h]
  | cons c front ih =>
      simp only [List.mem_cons, not_or] at h
      rw [List.cons_append, cut?_cons (Ne.symm h.1), ih h.2, Option.map_map]
      rfl

/-- No double colon stands in pieces that are joined by colons, so the first one comes behind them. -/
theorem cut?_colons (ps : List UInt16) (rest : List Char) :
    cut? (colons ps ++ rest) = (cut? rest).map (fun (before, after) => (colons ps ++ before, after)) := by
  have hhex (p : UInt16) : ':' ∉ hex p := fun hmem => (mem_hex hmem).2 rfl
  induction ps with
  | nil => cases h : cut? rest <;> simp [colons, h]
  | cons p ps ih =>
      cases ps with
      | nil => simpa [colons] using cut?_append (hhex p) rest
      | cons q ps =>
          obtain ⟨c, more, hcons, hc⟩ := exists_colons_cons q ps
          rw [colons_cons_cons, List.append_assoc, cut?_append (hhex p), List.cons_append]
          rw [hcons] at ih ⊢
          rw [List.cons_append, cut?_colon hc, ← List.cons_append, ih, Option.map_map, Option.map_map]
          congr 1
          funext cutting
          simp

/-- Where zeros are left out between pieces, as many are put in as are needed for eight pieces. -/
theorem parse?_doubleColon {head tail : List UInt16} {zeros : Nat} (hsome : 0 < zeros)
    (hlength : head.length + zeros + tail.length = 8) :
    parse? (colons head ++ ':' :: ':' :: colons tail) = ofPieces? (head ++ List.replicate zeros 0 ++ tail) := by
  have hcut : cut? (colons head ++ ':' :: ':' :: colons tail) = some (colons head, colons tail) := by
    rw [cut?_colons, cut?]
    simp
  have hzeros : 8 - (head.length + tail.length) = zeros := by omega
  have hne : ¬zeros = 0 := by omega
  rw [parse?, hcut]
  simp only [pieces?_colons, lastPieces?_colons, Option.bind_eq_bind, Option.bind_some, hzeros, if_neg hne]

/-- Without a double colon all pieces are there. -/
theorem parse?_colons (ps : List UInt16) : parse? (colons ps) = ofPieces? ps := by
  have hcut : cut? (colons ps) = none := by
    simpa [cut?] using cut?_colons ps []
  rw [parse?, hcut]
  simp only [lastPieces?_colons, Option.bind_eq_bind, Option.bind_some]

/-! ### Zeros that are left out -/

theorem take_zerosAtFront (ps : List UInt16) : ps.take (zerosAtFront ps) = List.replicate (zerosAtFront ps) 0 := by
  induction ps with
  | nil => rfl
  | cons p ps ih =>
      by_cases hzero : p = 0
      · simp [zerosAtFront, hzero, ih, List.replicate_succ]
      · simp [zerosAtFront, hzero]

/-- The run that is found lies within zeros. -/
theorem longestZeros_le (ps : List UInt16) :
    (longestZeros ps).2 ≤ zerosAtFront (ps.drop (longestZeros ps).1) := by
  have hfold : ∀ (starts : List Nat) (best : Nat × Nat), best.2 ≤ zerosAtFront (ps.drop best.1) →
      let found := starts.foldl (fun best start =>
        let length := zerosAtFront (ps.drop start)
        if best.2 < length then (start, length) else best) best
      found.2 ≤ zerosAtFront (ps.drop found.1) := by
    intro starts
    induction starts with
    | nil => exact fun _ h => h
    | cons start starts ih =>
        intro best h
        refine ih _ ?_
        by_cases hlonger : best.2 < zerosAtFront (ps.drop start)
        · simp [hlonger]
        · simpa [hlonger] using h
  exact hfold _ (0, 0) (Nat.zero_le _)

/-- **What is left out is zeros.** -/
theorem take_longestZeros (ps : List UInt16) :
    ps.take (longestZeros ps).1 ++ List.replicate (longestZeros ps).2 0 ++
      ps.drop ((longestZeros ps).1 + (longestZeros ps).2) = ps := by
  have hrun : (ps.drop (longestZeros ps).1).take (longestZeros ps).2 = List.replicate (longestZeros ps).2 0 := by
    have hle := longestZeros_le ps
    have htake := congrArg (List.take (longestZeros ps).2) (take_zerosAtFront (ps.drop (longestZeros ps).1))
    rwa [List.take_take, Nat.min_eq_left hle, List.take_replicate, Nat.min_eq_left hle] at htake
  rw [← hrun, List.append_assoc, ← List.drop_drop, List.take_append_drop, List.take_append_drop]

theorem toList_text (a : Ipv6) :
    a.text.toList =
      if (longestZeros a.pieces).2 < 2 then colons a.pieces
      else colons (a.pieces.take (longestZeros a.pieces).1) ++
        ':' :: ':' :: colons (a.pieces.drop ((longestZeros a.pieces).1 + (longestZeros a.pieces).2)) := by
  by_cases hshort : (longestZeros a.pieces).2 < 2 <;> simp [text, hshort, toList_joined]

/-- **An address reads back.** -/
theorem parse?_text (a : Ipv6) : parse? a.text.toList = some a := by
  obtain ⟨ps, hlength⟩ := a
  have hof : ofPieces? ps = some ⟨ps, hlength⟩ := by simp [ofPieces?, hlength]
  by_cases hshort : (longestZeros ps).2 < 2
  · rw [toList_text, if_pos hshort, parse?_colons]
    exact hof
  · have hwhole := take_longestZeros ps
    have hsum := congrArg List.length hwhole
    rw [List.length_append, List.length_append, List.length_replicate, hlength] at hsum
    rw [toList_text, if_neg hshort, parse?_doubleColon (by omega) hsum, hwhole]
    exact hof

/-- The text of an address is made of digits and colons. -/
theorem mem_text {a : Ipv6} {c : Char} (h : c ∈ a.text.toList) : c = ':' ∨ ∃ d < 16, c = d.digitChar := by
  have hcolons : ∀ ps : List UInt16, c ∈ colons ps → c = ':' ∨ ∃ d < 16, c = d.digitChar := by
    intro ps hc
    refine (mem_of_mem_intercalate hc).imp_right ?_
    rintro ⟨digits, hdigits, hc⟩
    obtain ⟨p, -, rfl⟩ := List.mem_map.1 hdigits
    exact exists_of_mem_hex hc
  rw [toList_text] at h
  by_cases hshort : (longestZeros a.pieces).2 < 2
  · rw [if_pos hshort] at h
    exact hcolons _ h
  · rw [if_neg hshort, List.mem_append, List.mem_cons, List.mem_cons] at h
    rcases h with h | h | h | h
    · exact hcolons _ h
    · exact .inl h
    · exact .inl h
    · exact hcolons _ h

end Ipv6

end NetGauge.Origin
