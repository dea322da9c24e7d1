import NetGauge.Proofs.Text.Punycode

set_option autoImplicit false

/-! # Labels of texts in increasing order

When the characters of a text stand in the order of their code points, each of them is put in at the end of those
before it, so that the digits of its label can be written down (`encode_ascending`) and counted
(`three_mul_length_le`). -/

namespace NetGauge.Text.Punycode

/-! ## In which order they are put in -/

/-- Characters in increasing order. -/
def Ascending (text : List Char) : Prop := text.Pairwise (fun a b => a.toNat < b.toNat)

/-- The digits of characters in increasing order, `placed` others being in place up to one with the code point
    `before`. Each number leads from the end of the text to its end. -/
def ascending (bias : Nat) (first : Bool) (before placed : Nat) : List Char → List Char
  | [] => []
  | c :: rest =>
    let delta := (c.toNat - before) * (placed + 1)
    digits bias 36 delta ++ ascending (adapt delta (placed + 1) first) false c.toNat (placed + 1) rest

namespace Encoder

theorem foldl_below {codePoint : Nat} {passed : List Char} (h : ∀ c ∈ passed, c.toNat < codePoint) (e : Encoder) :
    passed.foldl (step codePoint) e = { e with delta := e.delta + passed.length } := by
  induction passed generalizing e with
  | nil => rfl
  | cons c passed ih =>
      have hstep : e.step codePoint c = { e with delta := e.delta + 1 } := by
        rw [step, if_pos (h c List.mem_cons_self)]
      rw [List.foldl_cons, hstep, ih fun d hd => h d (List.mem_cons_of_mem c hd)]
      simp [Nat.add_assoc, Nat.add_comm 1]

theorem foldl_above {codePoint : Nat} {passed : List Char} (h : ∀ c ∈ passed, codePoint < c.toNat) (e : Encoder) :
    passed.foldl (step codePoint) e = e := by
  induction passed with
  | nil => rfl
  | cons c passed ih =>
      have hc := h c List.mem_cons_self
      have hstep : e.step codePoint c = e := by
        rw [step, if_neg (by omega), if_neg (by omega)]
      rw [List.foldl_cons, hstep, ih fun d hd => h d (List.mem_cons_of_mem c hd)]

/-- In a text in increasing order the turn of a character puts it at the end of those before it. -/
theorem turn_ascending {done rest : List Char} {c : Char}
    (hsorted : Ascending (done ++ c :: rest)) (before : Nat) (e : Encoder) :
    turn (done ++ c :: rest) (before, e) c.toNat =
      let delta := e.delta + (c.toNat - before) * (e.placed + 1) + done.length
      (c.toNat + 1, {
        coded := (digits e.bias 36 delta).reverse ++ e.coded
        delta := 1
        bias := adapt delta (e.placed + 1) e.first
        first := false
        placed := e.placed + 1 }) := by
  obtain ⟨-, hrest, hdone⟩ := List.pairwise_append.1 hsorted
  have hbelow : ∀ d ∈ done, d.toNat < c.toNat := fun d hd => hdone d hd c List.mem_cons_self
  have habove : ∀ d ∈ rest, c.toNat < d.toNat := (List.pairwise_cons.1 hrest).1
  simp only [turn, List.foldl_append, foldl_below hbelow, List.foldl_cons]
  rw [foldl_above habove]
  simp [step]

theorem turns_ascending {done rest : List Char} {before last : Nat} {e : Encoder}
    (hsorted : Ascending (done ++ rest)) (hplaced : e.placed = done.length)
    (hlast : last ≤ before) (hrest : ∀ c ∈ rest, before ≤ c.toNat)
    (hdelta : e.delta + done.length = (before - last) * (done.length + 1)) :
    ((rest.map Char.toNat).foldl (turn (done ++ rest)) (before, e)).2.coded.reverse =
      e.coded.reverse ++ ascending e.bias e.first last done.length rest := by
  induction rest generalizing done before last e with
  | nil => simp [ascending]
  | cons c rest ih =>
      have hc := hrest c List.mem_cons_self
      have hnumber : e.delta + (c.toNat - before) * (e.placed + 1) + done.length =
          (c.toNat - last) * (done.length + 1) := by
        rw [hplaced, Nat.add_right_comm, hdelta, ← Nat.add_mul]
        congr 1
        omega
      have hrest' : ∀ d ∈ rest, c.toNat + 1 ≤ d.toNat := by
        obtain ⟨-, hsuffix, -⟩ := List.pairwise_append.1 hsorted
        exact (List.pairwise_cons.1 hsuffix).1
      rw [List.map_cons, List.foldl_cons, turn_ascending hsorted, hnumber]
      have hmove : done ++ c :: rest = (done ++ [c]) ++ rest := by simp
      rw [hmove] at hsorted ⊢
      rw [ih hsorted (by simp [hplaced]) (Nat.le_succ c.toNat) hrest' (by simp; omega)]
      simp [ascending, hplaced]

end Encoder

theorem eraseDups_ascending {ns : List Nat} (hsorted : ns.Pairwise (· < ·)) : ns.eraseDups = ns := by
  induction ns with
  | nil => rfl
  | cons n ns ih =>
      obtain ⟨hfirst, hsorted⟩ := List.pairwise_cons.1 hsorted
      have hfilter : ns.filter (fun m => !m == n) = ns := by
        rw [List.filter_eq_self]
        intro m hm
        have hlt := hfirst m hm
        simpa using (by omega : m ≠ n)
      rw [List.eraseDups_cons, hfilter, ih hsorted]

theorem codePoints_ascending {text : List Char} (hsorted : Ascending text)
    (hbeyond : ∀ c ∈ text, 128 ≤ c.toNat) : codePoints text = text.map Char.toNat := by
  have hfilter : (text.map Char.toNat).filter (128 ≤ ·) = text.map Char.toNat := by
    rw [List.filter_eq_self]
    simpa using hbeyond
  have hlt : (text.map Char.toNat).Pairwise (· < ·) := List.pairwise_map.2 hsorted
  rw [codePoints, hfilter, List.mergeSort_of_pairwise (hlt.imp fun h => by simpa using Nat.le_of_lt h)]
  exact eraseDups_ascending hlt

/-- The label of a text in increasing order, all of it beyond ASCII. -/
theorem encode_ascending {text : List Char} (hsorted : Ascending text)
    (hbeyond : ∀ c ∈ text, 128 ≤ c.toNat) : encode text = ascending 72 true 128 0 text := by
  have hplain : text.filter (·.toNat < 128) = [] := by
    simpa [List.filter_eq_nil_iff] using hbeyond
  have hsorted' : Ascending ([] ++ text) := hsorted
  have hturns := Encoder.turns_ascending (e := { placed := 0 }) hsorted' rfl (Nat.le_refl 128) hbeyond rfl
  rw [encode_eq, hplain, tail, hplain, codePoints_ascending hsorted hbeyond]
  exact hturns

/-! ## How long they are -/

/-- A number has three digits if it is large enough, whatever the bias. -/
theorem three_le_length_digits (bias distance : Nat) {n : Nat} (h : 911 ≤ n) : 3 ≤ (digits bias distance n).length := by
  have hpos := threshold_pos distance bias
  have hle := threshold_le distance bias
  have hsecond := threshold_le (distance + 36) bias
  have hleft : 26 ≤ (n - threshold distance bias) / (36 - threshold distance bias) := by
    rw [Nat.le_div_iff_mul_le (by omega)]
    omega
  rw [digits, if_neg (by omega), digits, if_neg (by omega)]
  have hmore := List.length_pos_of_ne_nil (digits_ne_nil bias (distance + 36 + 36)
    (((n - threshold distance bias) / (36 - threshold distance bias) - threshold (distance + 36) bias) /
      (36 - threshold (distance + 36) bias)))
  simp only [List.length_cons]
  omega

/-- Characters that lie far apart have three digits each, but for the first few. -/
theorem three_mul_length_le {gap few : Nat} (hfew : 911 ≤ gap * (few + 1)) {text : List Char} {last : Nat}
    (hgap : (last :: text.map Char.toNat).IsChain (fun m n => m + gap ≤ n)) (bias : Nat) (first : Bool)
    (placed : Nat) :
    3 * text.length ≤ (ascending bias first last placed text).length + 2 * (few - placed) := by
  induction text generalizing last bias first placed with
  | nil => simp
  | cons c rest ih =>
      rw [List.map_cons, List.isChain_cons_cons] at hgap
      have hrest := ih hgap.2 (adapt ((c.toNat - last) * (placed + 1)) (placed + 1) first) false (placed + 1)
      have hone : 1 ≤ (digits bias 36 ((c.toNat - last) * (placed + 1))).length :=
        List.length_pos_of_ne_nil (digits_ne_nil _ _ _)
      simp only [ascending, List.length_cons, List.length_append]
      by_cases hplaced : placed < few
      · omega
      · have hlarge : gap * (few + 1) ≤ (c.toNat - last) * (placed + 1) :=
          Nat.mul_le_mul (by omega) (by omega)
        have hthree := three_le_length_digits bias 36 (Nat.le_trans hfew hlarge)
        omega

end NetGauge.Text.Punycode
