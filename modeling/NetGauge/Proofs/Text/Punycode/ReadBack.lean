import Mathlib.Algebra.Group.Nat.Defs
import NetGauge.Proofs.Text.Punycode

set_option autoImplicit false

/-! # Labels read back

A label is decoded to the text that it was made of (`decode?_encode`), if the text is no longer than the text of a
label may be; the numbers in the label are small enough for the decoder then. Encoder and decoder go in lockstep:
whenever the encoder has written a number the decoder has put in the same character at the same place
(`Lockstep.step_at`), so that after each turn it holds all characters of the text that had theirs (`Lockstep.turn`). -/

namespace NetGauge.Text.Punycode

/-! ## The size of numbers -/

/-- How long a text may be. -/
def maxLength : Nat := 1000

/-- Numbers in the label of a text that is not too long are smaller. -/
def largest : Nat := 0x110000 * maxLength

/-- The bias does not grow larger. -/
def maxBias : Nat := 213

theorem shrink_fst_le (delta count : Nat) : (shrink delta count).1 ≤ 455 := by
  induction delta using Nat.strongRecOn generalizing count with
  | ind delta ih =>
      rw [shrink]
      by_cases hlarge : 455 < delta
      · rw [if_pos hlarge]
        exact ih _ (Nat.div_lt_self (by omega) (by omega)) _
      · rw [if_neg hlarge]
        omega

theorem shrink_snd_le (rounds delta count : Nat) (h : delta < 456 * 35 ^ rounds) :
    (shrink delta count).2 ≤ count + 36 * rounds := by
  induction rounds generalizing delta count with
  | zero =>
      rw [pow_zero] at h
      rw [shrink, if_neg (by omega)]
      omega
  | succ rounds ih =>
      rw [shrink]
      by_cases hlarge : 455 < delta
      · rw [if_pos hlarge]
        rw [pow_succ] at h
        have hrest := ih (delta / 35) (count + 36) (by omega)
        omega
      · rw [if_neg hlarge]
        omega

theorem adapt_le {delta : Nat} (h : delta < largest) (size : Nat) (first : Bool) :
    adapt delta size first ≤ maxBias := by
  have hhalf : (if first then delta / 700 else delta / 2) ≤ delta / 2 := by
    cases first
    · exact Nat.le_refl _
    · simp only [if_true]
      omega
  have hlargest : largest = 1114112000 := rfl
  have hpow : 456 * 35 ^ 5 = 23949975000 := by decide
  simp only [adapt]
  generalize (if first then delta / 700 else delta / 2) = start at hhalf ⊢
  have hshare := Nat.div_le_self start size
  have hfirst := shrink_fst_le (start + start / size) 0
  have hsecond := shrink_snd_le 5 (start + start / size) 0 (by omega)
  generalize shrink (start + start / size) 0 = rest at hfirst hsecond ⊢
  have hquotient : 36 * rest.1 / (rest.1 + 38) ≤ 33 := by
    rw [Nat.div_le_iff_le_mul_add_pred (by omega)]
    omega
  have hmax : maxBias = 213 := rfl
  omega

/-! ## Reading a number -/

theorem digit?_digit : ∀ n < 36, digit? (digit n) = some n := by decide

/-- What is left of a number behind its first digit counts as often as the digit leaves values over. -/
theorem mul_eq_first_add_rest (weight : Nat) {limit n : Nat} (h : limit ≤ n) :
    weight * n =
      weight * (limit + (n - limit) % (36 - limit)) + weight * (36 - limit) * ((n - limit) / (36 - limit)) := by
  have hsplit := Nat.mod_add_div (n - limit) (36 - limit)
  rw [Nat.mul_assoc, ← Nat.mul_add]
  congr 1
  omega

namespace Decoder

variable {d : Decoder} {n : Nat}

theorem step_last (hn : n < threshold d.distance d.bias) (hvalue : d.place + (d.value + n * d.weight) < bound) :
    d.step (digit n) = d.insert (d.value + n * d.weight) := by
  have hle := threshold_le d.distance d.bias
  simp only [step, digit?_digit n (by omega), Option.bind_eq_bind, Option.bind_some]
  rw [if_neg (by omega), if_pos hn]

theorem step_open (hn : threshold d.distance d.bias ≤ n) (hdigit : n < 36)
    (hvalue : d.place + (d.value + n * d.weight) < bound)
    (hweight : d.weight * (36 - threshold d.distance d.bias) < bound) :
    d.step (digit n) = some { d with
      value := d.value + n * d.weight
      weight := d.weight * (36 - threshold d.distance d.bias)
      distance := d.distance + 36 } := by
  simp only [step, digit?_digit n hdigit, Option.bind_eq_bind, Option.bind_some]
  rw [if_neg (by omega), if_neg (by omega), if_neg (by omega)]
  rfl

/-- The next digit of a number that is small enough does not weigh too much: either this one leaves few values over,
    or it is one of the first. -/
theorem weight_lt {position : Nat} (hbias : d.bias ≤ maxBias) (hdistance : d.distance = 36 * (position + 1))
    (hweight : d.weight ≤ 35 ^ position) (hn : threshold d.distance d.bias ≤ n) (hsmall : d.weight * n < largest) :
    d.weight * (36 - threshold d.distance d.bias) < bound := by
  have hmax : maxBias = 213 := rfl
  have hlargest : largest = 1114112000 := rfl
  have hbound : bound = 4294967296 := rfl
  by_cases hfew : 8 ≤ threshold d.distance d.bias
  · have hatLeast : d.weight * 8 ≤ d.weight * n := Nat.mul_le_mul_left _ (by omega)
    have hrest : d.weight * (36 - threshold d.distance d.bias) ≤ d.weight * 28 := Nat.mul_le_mul_left _ (by omega)
    omega
  · have hposition : position ≤ 5 := by
      unfold threshold at hfew
      omega
    have hpower : 35 ^ position ≤ 35 ^ 5 := Nat.pow_le_pow_right (by decide) hposition
    have hfive : 35 ^ 5 = 52521875 := by decide
    have hrest : d.weight * (36 - threshold d.distance d.bias) ≤ 52521875 * 35 :=
      Nat.mul_le_mul (by omega) (by have := threshold_pos d.distance d.bias; omega)
    omega

/-- **A number is read to its end**, if it is small enough. -/
theorem foldlM_digits (d : Decoder) (n position : Nat) (rest : List Char) (hbias : d.bias ≤ maxBias)
    (hdistance : d.distance = 36 * (position + 1)) (hweight : d.weight ≤ 35 ^ position)
    (hsmall : d.weight * n < largest) (hplace : d.place + d.value + d.weight * n < bound) :
    (digits d.bias d.distance n ++ rest).foldlM step d =
      (d.insert (d.value + n * d.weight)).bind (rest.foldlM step) := by
  induction n using Nat.strongRecOn generalizing d position with
  | ind n ih =>
      have hpos := threshold_pos d.distance d.bias
      have hle := threshold_le d.distance d.bias
      have hcomm := Nat.mul_comm n d.weight
      rw [digits]
      by_cases hlast : n < threshold d.distance d.bias
      · rw [if_pos hlast, List.singleton_append, List.foldlM_cons, step_last hlast (by omega)]
        rfl
      · rw [if_neg hlast, List.cons_append, List.foldlM_cons]
        have hheavy := weight_lt hbias hdistance hweight (Nat.le_of_not_lt hlast) hsmall
        have hwhole := mul_eq_first_add_rest d.weight (Nat.le_of_not_lt hlast)
        obtain ⟨base, hbase⟩ : ∃ base, 36 - threshold d.distance d.bias = base := ⟨_, rfl⟩
        have hmod := Nat.mod_lt (n - threshold d.distance d.bias) (show 0 < base by omega)
        have hdiv := Nat.div_mul_le_self (n - threshold d.distance d.bias) base
        rw [hbase] at hheavy hwhole ⊢
        generalize (n - threshold d.distance d.bias) % base = low at hmod hwhole ⊢
        generalize (n - threshold d.distance d.bias) / base = left at hdiv hwhole ⊢
        have htwo : left * 2 ≤ left * base := Nat.mul_le_mul_left _ (by omega)
        have hvalue : (threshold d.distance d.bias + low) * d.weight = d.weight * (threshold d.distance d.bias + low) :=
          Nat.mul_comm _ _
        have hleft : left * (d.weight * base) = d.weight * base * left := Nat.mul_comm _ _
        have hpower : d.weight * base ≤ 35 ^ (position + 1) := by
          rw [pow_succ]
          exact Nat.mul_le_mul hweight (by omega)
        have hstep := step_open (d := d) (n := threshold d.distance d.bias + low) (by omega) (by omega) (by omega)
          (by rw [hbase]; exact hheavy)
        rw [hbase] at hstep
        have hrest := ih left (by omega)
          { d with
            value := d.value + (threshold d.distance d.bias + low) * d.weight
            weight := d.weight * base
            distance := d.distance + 36 }
          (position + 1) hbias (by dsimp only; omega) hpower (by dsimp only; omega) (by dsimp only; omega)
        have hnumber : d.value + (threshold d.distance d.bias + low) * d.weight + left * (d.weight * base) =
            d.value + n * d.weight := by omega
        dsimp only at hrest
        rw [hnumber] at hrest
        rw [hstep]
        exact hrest

/-- A number that leads to a character puts it in. -/
theorem insert_eq {value turns place : Nat} {c : Char}
    (hnumber : d.place + value = turns * (d.text.length + 1) + place) (hplace : place ≤ d.text.length)
    (hc : c.toNat = d.codePoint + turns) :
    d.insert value = some {
      text := d.text.take place ++ c :: d.text.drop place
      codePoint := c.toNat
      place := place + 1
      bias := adapt value (d.text.length + 1) d.first
      first := false } := by
  have hdiv : (d.place + value) / (d.text.length + 1) = turns := by
    rw [hnumber, Nat.mul_comm, Nat.mul_add_div (Nat.succ_pos _), Nat.div_eq_of_lt (by omega), Nat.add_zero]
  have hmod : (d.place + value) % (d.text.length + 1) = place := by
    rw [hnumber, Nat.mul_comm, Nat.mul_add_mod, Nat.mod_eq_of_lt (by omega)]
  have hvalid : c.toNat.isValidChar := c.valid
  simp only [insert, hdiv, hmod, ← hc, if_pos hvalid, Char.ofNat_toNat]

end Decoder

/-! ## Encoder and decoder in lockstep -/

/-- An encoder in its turn with a code point, that has passed over some characters of a text and has others ahead,
    and a decoder that has read all that was coded. The decoder holds the characters that were put in; from the one
    that it put in last the way to the next one is as far as the encoder has counted. -/
structure Lockstep (start : Decoder) (codePoint : Nat) (passed ahead : List Char) (e : Encoder) (d : Decoder) :
    Prop where
  read : e.coded.reverse.foldlM Decoder.step start = some d
  text : d.text = passed.filter (·.toNat ≤ codePoint) ++ ahead.filter (·.toNat < codePoint)
  placed : e.placed = d.text.length
  reached : d.codePoint ≤ codePoint
  delta : d.codePoint * (d.text.length + 1) + d.place + e.delta =
    codePoint * (d.text.length + 1) + (passed.filter (·.toNat ≤ codePoint)).length
  bias : d.bias = e.bias ∧ d.bias ≤ maxBias
  first : d.first = e.first
  resting : d.value = 0 ∧ d.weight = 1 ∧ d.distance = 36

namespace Lockstep

variable {start d : Decoder} {codePoint : Nat} {text passed ahead : List Char} {e : Encoder} {c : Char}

/-- A character whose turn was before is passed over. -/
theorem step_below (h : Lockstep start codePoint passed (c :: ahead) e d) (hc : c.toNat < codePoint) :
    Lockstep start codePoint (passed ++ [c]) ahead (e.step codePoint c) d := by
  have hle : c.toNat ≤ codePoint := Nat.le_of_lt hc
  have hdelta := h.delta
  rw [Encoder.step, if_pos hc]
  refine ⟨h.read, ?_, h.placed, h.reached, ?_, h.bias, h.first, h.resting⟩
  · simpa [hc, hle] using h.text
  · simp [hle]
    omega

/-- A character whose turn comes later is passed over. -/
theorem step_above (h : Lockstep start codePoint passed (c :: ahead) e d) (hc : codePoint < c.toNat) :
    Lockstep start codePoint (passed ++ [c]) ahead (e.step codePoint c) d := by
  have hnot : ¬c.toNat ≤ codePoint := by omega
  have hnotlt : ¬c.toNat < codePoint := by omega
  have hne : ¬c.toNat = codePoint := by omega
  rw [Encoder.step, if_neg hnotlt, if_neg hne]
  refine ⟨h.read, ?_, h.placed, h.reached, ?_, h.bias, h.first, h.resting⟩
  · simpa [hnot, hnotlt] using h.text
  · simpa [hnot] using h.delta

/-- A character whose turn it is is put in by both. -/
theorem step_at (h : Lockstep start codePoint passed (c :: ahead) e d) (hc : c.toNat = codePoint)
    (hshort : (passed ++ c :: ahead).length ≤ maxLength) :
    ∃ next, Lockstep start codePoint (passed ++ [c]) ahead (e.step codePoint c) next := by
  subst hc
  have hdelta := h.delta
  have hreached := h.reached
  have htext : d.text = passed.filter (·.toNat ≤ c.toNat) ++ ahead.filter (·.toNat < c.toNat) := by
    simpa using h.text
  obtain ⟨hbias, hmaxBias⟩ := h.bias
  obtain ⟨hvalue, hweight, hdistance⟩ := h.resting
  have hplace : (passed.filter (·.toNat ≤ c.toNat)).length ≤ d.text.length := by
    rw [htext, List.length_append]
    omega
  have hlength : d.text.length + 1 ≤ maxLength := by
    have hpassed := List.length_filter_le (fun x : Char => decide (x.toNat ≤ c.toNat)) passed
    have hahead := List.length_filter_le (fun x : Char => decide (x.toNat < c.toNat)) ahead
    rw [htext, List.length_append]
    rw [List.length_append, List.length_cons] at hshort
    omega
  have hvalid : c.toNat < 0x110000 := by
    have hc : c.toNat < 0xD800 ∨ 0xDFFF < c.toNat ∧ c.toNat < 0x110000 := c.valid
    omega
  obtain ⟨turns, hturns⟩ : ∃ turns, c.toNat = d.codePoint + turns := ⟨c.toNat - d.codePoint, by omega⟩
  have hsplit : c.toNat * (d.text.length + 1) =
      d.codePoint * (d.text.length + 1) + turns * (d.text.length + 1) := by
    rw [hturns, Nat.add_mul]
  have hnumber : d.place + e.delta = turns * (d.text.length + 1) + (passed.filter (·.toNat ≤ c.toNat)).length := by
    omega
  have hsmall : d.place + e.delta < largest := by
    have hwhole : (c.toNat + 1) * (d.text.length + 1) ≤ 0x110000 * maxLength := Nat.mul_le_mul hvalid hlength
    rw [Nat.add_mul] at hwhole
    rw [largest]
    omega
  have hbound : largest < bound := by decide
  have hinsert := Decoder.insert_eq hnumber hplace hturns
  have hread := Decoder.foldlM_digits d e.delta 0 [] hmaxBias hdistance (by rw [hweight, pow_zero])
    (by rw [hweight]; omega) (by rw [hvalue, hweight]; omega)
  rw [hvalue, hweight, Nat.mul_one, Nat.zero_add, hinsert, List.append_nil, hbias, hdistance] at hread
  have htake : d.text.take (passed.filter (·.toNat ≤ c.toNat)).length = passed.filter (·.toNat ≤ c.toNat) := by
    rw [htext, List.take_left]
  have hdrop : d.text.drop (passed.filter (·.toNat ≤ c.toNat)).length = ahead.filter (·.toNat < c.toNat) := by
    rw [htext, List.drop_left]
  have hmore : (d.text.take (passed.filter (·.toNat ≤ c.toNat)).length ++
      c :: d.text.drop (passed.filter (·.toNat ≤ c.toNat)).length).length = d.text.length + 1 := by
    rw [htake, hdrop, htext]
    simp
    omega
  rw [Encoder.step, if_neg (Nat.lt_irrefl _), if_pos rfl]
  refine ⟨{
    text := d.text.take (passed.filter (·.toNat ≤ c.toNat)).length ++
      c :: d.text.drop (passed.filter (·.toNat ≤ c.toNat)).length
    codePoint := c.toNat
    place := (passed.filter (·.toNat ≤ c.toNat)).length + 1
    bias := adapt e.delta (d.text.length + 1) d.first
    first := false }, ?_, ?_, ?_, Nat.le_refl _, ?_, ⟨?_, adapt_le (by omega) _ _⟩, rfl, rfl, rfl, rfl⟩
  · rw [List.reverse_append, List.reverse_reverse, List.foldlM_append, h.read]
    exact hread
  · rw [htake, hdrop]
    simp
  · rw [hmore, h.placed]
  · rw [hmore]
    simp
  · rw [h.placed, ← h.first]

/-- The rest of a turn. -/
theorem pass (h : Lockstep start codePoint passed ahead e d) (hshort : (passed ++ ahead).length ≤ maxLength) :
    ∃ next, Lockstep start codePoint (passed ++ ahead) [] (ahead.foldl (Encoder.step codePoint) e) next := by
  induction ahead generalizing passed e d with
  | nil => exact ⟨d, by rwa [List.append_nil]⟩
  | cons c ahead ih =>
      have hstep : ∃ next, Lockstep start codePoint (passed ++ [c]) ahead (e.step codePoint c) next := by
        rcases Nat.lt_trichotomy c.toNat codePoint with hbelow | hat | habove
        · exact ⟨d, h.step_below hbelow⟩
        · exact h.step_at hat hshort
        · exact ⟨d, h.step_above habove⟩
      obtain ⟨next, hnext⟩ := hstep
      rw [List.append_cons] at hshort ⊢
      exact ih hnext hshort

/-- Up to the next code point that is in the text there is nothing to put in. -/
theorem advance {next : Nat} (h : Lockstep start codePoint [] text e d) (hnext : codePoint ≤ next)
    (hnone : ∀ c ∈ text, c.toNat < codePoint ∨ next ≤ c.toNat) :
    Lockstep start next [] text { e with delta := e.delta + (next - codePoint) * (e.placed + 1) } d := by
  have hdelta := h.delta
  have hsame : text.filter (·.toNat < next) = text.filter (·.toNat < codePoint) := by
    refine List.filter_congr fun c hc => ?_
    have hside := hnone c hc
    simp only [decide_eq_decide]
    omega
  refine ⟨h.read, ?_, h.placed, Nat.le_trans h.reached hnext, ?_, h.bias, h.first, h.resting⟩
  · rw [hsame]
    exact h.text
  · have hsplit : next * (d.text.length + 1) =
        codePoint * (d.text.length + 1) + (next - codePoint) * (d.text.length + 1) := by
      rw [← Nat.add_mul, Nat.add_sub_of_le hnext]
    rw [h.placed]
    rw [List.filter_nil] at hdelta ⊢
    dsimp only
    omega

/-- Behind the last character of the text the turn is the next code point's. -/
theorem next (h : Lockstep start codePoint text [] e d) :
    Lockstep start (codePoint + 1) [] text { e with delta := e.delta + 1 } d := by
  have hdelta := h.delta
  have htext : d.text = text.filter (·.toNat ≤ codePoint) := by simpa using h.text
  refine ⟨h.read, ?_, h.placed, Nat.le_succ_of_le h.reached, ?_, h.bias, h.first, h.resting⟩
  · simpa [Nat.lt_succ_iff] using htext
  · rw [← htext] at hdelta
    rw [Nat.succ_mul]
    simp
    omega

/-- **One turn**: when it is over, the decoder has put in every character with its code point. -/
theorem turn {before : Nat} (h : Lockstep start before [] text e d) (hbefore : before ≤ codePoint)
    (hnone : ∀ c ∈ text, c.toNat < before ∨ codePoint ≤ c.toNat) (hshort : text.length ≤ maxLength) :
    ∃ next, Lockstep start (codePoint + 1) [] text (Encoder.turn text (before, e) codePoint).2 next := by
  obtain ⟨next, hnext⟩ := (h.advance hbefore hnone).pass hshort
  exact ⟨next, hnext.next⟩

/-- **All turns**: in the end the decoder holds the text. -/
theorem turns {before : Nat} {codePoints : List Nat} (h : Lockstep start before [] text e d)
    (hsorted : codePoints.Pairwise (· < ·)) (hbefore : ∀ n ∈ codePoints, before ≤ n)
    (hcover : ∀ c ∈ text, c.toNat < before ∨ c.toNat ∈ codePoints) (hshort : text.length ≤ maxLength) :
    ∃ last, (codePoints.foldl (Encoder.turn text) (before, e)).2.coded.reverse.foldlM Decoder.step start = some last ∧
      last.text = text ∧ last.weight = 1 := by
  induction codePoints generalizing before e d with
  | nil =>
      have hall : ∀ c ∈ text, c.toNat < before := by simpa using hcover
      refine ⟨d, h.read, ?_, h.resting.2.1⟩
      rw [h.text, List.filter_nil, List.nil_append, List.filter_eq_self]
      simpa using hall
  | cons codePoint codePoints ih =>
      obtain ⟨hfirst, hrest⟩ := List.pairwise_cons.1 hsorted
      have hnone : ∀ c ∈ text, c.toNat < before ∨ codePoint ≤ c.toNat := by
        intro c hc
        rcases hcover c hc with hbelow | hin
        · exact .inl hbelow
        · rcases List.mem_cons.1 hin with heq | hlater
          · exact .inr (Nat.le_of_eq heq.symm)
          · exact .inr (Nat.le_of_lt (hfirst _ hlater))
      obtain ⟨next, hnext⟩ := h.turn (hbefore _ (List.mem_cons_self ..)) hnone hshort
      refine ih hnext hrest (fun n hn => hfirst n hn) fun c hc => ?_
      rcases hcover c hc with hbelow | hin
      · have hle := hbefore codePoint (List.mem_cons_self ..)
        exact .inl (by omega)
      · rcases List.mem_cons.1 hin with heq | hlater
        · exact .inl (by omega)
        · exact .inr hlater

end Lockstep

/-- Before the first turn the decoder has the ASCII characters, as the encoder has. -/
theorem lockstep_start (text : List Char) :
    Lockstep { text := text.filter (·.toNat < 128) } 128 [] text
      { placed := (text.filter (·.toNat < 128)).length } { text := text.filter (·.toNat < 128) } :=
  ⟨rfl, rfl, rfl, Nat.le_refl _, rfl, ⟨rfl, show 72 ≤ maxBias by decide⟩, rfl, rfl, rfl, rfl⟩

/-! ## The whole label -/

theorem pairwise_eraseDups {numbers : List Nat} (h : numbers.Pairwise (· ≤ ·)) :
    numbers.eraseDups.Pairwise (· < ·) := by
  induction hlength : numbers.length using Nat.strongRecOn generalizing numbers with
  | ind length ih =>
      cases numbers with
      | nil => exact .nil
      | cons first rest =>
          obtain ⟨hfirst, hrest⟩ := List.pairwise_cons.1 h
          have hshorter : (rest.filter fun n => !n == first).length < length := by
            have hle := List.length_filter_le (fun n => !n == first) rest
            rw [List.length_cons] at hlength
            omega
          rw [List.eraseDups_cons]
          refine .cons (fun n hn => ?_) (ih _ hshorter (hrest.sublist List.filter_sublist) rfl)
          obtain ⟨hmem, hne⟩ := List.mem_filter.1 (List.mem_eraseDups.1 hn)
          have hle := hfirst n hmem
          have hne : n ≠ first := by simpa using hne
          omega

theorem pairwise_codePoints (text : List Char) : (codePoints text).Pairwise (· < ·) := by
  refine pairwise_eraseDups ?_
  have hsorted : (((text.map Char.toNat).filter (128 ≤ ·)).mergeSort (· ≤ ·)).Pairwise
      (fun a b => decide (a ≤ b) = true) :=
    List.pairwise_mergeSort (fun a b c hab hbc => by simp at *; omega) (fun a b => by simp; omega) _
  exact hsorted.imp fun h => by simpa using h

/-- The digits of a label are read back, behind its ASCII characters. -/
theorem foldlM_tail {text : List Char} (hshort : text.length ≤ maxLength) :
    ∃ last, (tail text).foldlM Decoder.step { text := text.filter (·.toNat < 128) } = some last ∧
      last.text = text ∧ last.weight = 1 := by
  refine (lockstep_start text).turns (pairwise_codePoints text) (fun n hn => (mem_codePoints.1 hn).2) ?_ hshort
  intro c hc
  rcases Nat.lt_or_ge c.toNat 128 with hascii | hbeyond
  · exact .inl hascii
  · exact .inr (mem_codePoints.2 ⟨⟨c, hc, rfl⟩, hbeyond⟩)

/-- The digits stand behind the last hyphen, since none of them is one. -/
theorem takeWhile_reverse_tail (text front : List Char) :
    (front ++ '-' :: tail text).reverse.takeWhile (· ≠ '-') = (tail text).reverse := by
  rw [List.reverse_append, List.reverse_cons, List.append_assoc, List.takeWhile_append_of_pos]
  · simp
  · intro c hc
    simpa using (isDigit_of_mem_tail (List.mem_reverse.1 hc)).ne_hyphen

/-- **A label reads back**: the decoder finds the text that was encoded, if it is not too long. -/
theorem decode?_encode {text : List Char} (hshort : text.length ≤ maxLength) : decode? (encode text) = some text := by
  obtain ⟨last, hread, htext, hweight⟩ := foldlM_tail hshort
  rw [encode_eq, decode?]
  by_cases hplain : (text.filter (·.toNat < 128)).isEmpty
  · have hnone : (tail text).reverse.takeWhile (· ≠ '-') = (tail text).reverse := by
      rw [List.takeWhile_eq_self_iff]
      intro c hc
      simpa using (isDigit_of_mem_tail (List.mem_reverse.1 hc)).ne_hyphen
    rw [List.isEmpty_iff.1 hplain] at hread
    simp only [if_pos hplain, hnone, List.reverse_reverse, Nat.sub_self, List.take_zero, List.dropLast_nil,
      List.isEmpty_nil, if_true, hread]
    simp [hweight, htext]
  · have hfront : (text.filter (·.toNat < 128) ++ '-' :: tail text).take
        ((text.filter (·.toNat < 128) ++ '-' :: tail text).length - (tail text).length) =
          text.filter (·.toNat < 128) ++ ['-'] := by
      rw [List.append_cons, List.length_append, Nat.add_sub_cancel, List.take_left]
    rw [if_neg hplain]
    simp only [takeWhile_reverse_tail, List.reverse_reverse, hfront, List.dropLast_concat, if_neg hplain, hread]
    simp [hweight, htext]

end NetGauge.Text.Punycode
