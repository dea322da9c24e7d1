import Mathlib.Data.List.Basic
import NetGauge.Origin.Domain
import NetGauge.Proofs.Text.Table

set_option autoImplicit false

/-! # Ideographs in names

The ideographs of the first block stand for themselves in a name: they are not spelled in another way, do not
combine, and run from left to right. -/

namespace NetGauge.Origin

open Text (Ranges Table entriesFrom)

/-! ## In the tables -/

/-- An ideograph of the first block. -/
def IsIdeograph (c : Char) : Prop := 0x4E00 ≤ c.toNat ∧ c.toNat ≤ 0x9FFF

/-- Whether a range has no ideograph. -/
def isApart (range : Nat × Nat) : Bool := range.2 < 0x4E00 || 0x9FFF < range.1

variable {c : Char}

theorem contains_of_isApart {r : Ranges} (h : ∃ cs, r = .ofText (String.ofList cs) ∧
    (Ranges.ofEntries (entriesFrom none [] cs)).all isApart = true) (hc : IsIdeograph c) :
    r.contains c.toNat = false := by
  obtain ⟨cs, rfl, hall⟩ := h
  obtain ⟨hlow, hhigh⟩ := hc
  rw [← Bool.not_eq_true]
  intro hcontains
  obtain ⟨e, hmem, hfirst, hlast⟩ := Ranges.exists_of_contains hcontains
  have hentry := Array.mem_toList_iff.2 hmem
  rw [Ranges.toList_entries_ofText] at hentry
  have hapart := List.all_eq_true.1 hall e hentry
  simp only [isApart, Bool.or_eq_true, decide_eq_true_eq] at hapart
  omega

set_option maxRecDepth 100000 in
theorem plainRanges_contains (hc : IsIdeograph c) : Spelling.plainRanges.contains c.toNat = true := by
  obtain ⟨cs, htext, hsorted, hmem⟩ : ∃ cs, Spelling.plainRanges = .ofText (String.ofList cs) ∧
      (Ranges.ofEntries (entriesFrom none [] cs)).IsChain Ranges.Precedes ∧
      (0x3400, 0xA48C) ∈ Ranges.ofEntries (entriesFrom none [] cs) :=
    ⟨_, rfl, by decide +kernel, by decide +kernel⟩
  rw [← Ranges.toList_entries_ofText, ← htext] at hsorted hmem
  have hsound : Spelling.plainRanges.IsSorted := hsorted
  exact hsound.contains_of_mem (Array.mem_toList_iff.1 hmem) (by have := hc.1; omega) (by have := hc.2; omega)

set_option maxRecDepth 100000 in
theorem isMark_eq_false (hc : IsIdeograph c) : Text.isMark c = false := by
  have hranges : Text.markRanges.contains c.toNat = false := contains_of_isApart ⟨_, rfl, by decide +kernel⟩ hc
  simp [Text.isMark, hranges]

set_option maxRecDepth 100000 in
theorem combiningClass_eq_zero (hc : IsIdeograph c) : Text.combiningClass c = 0 := by
  have hranges : Text.combiningClasses.Forall (fun entry => entry.2.contains c.toNat = false) := by
    unfold Text.combiningClasses
    and_intros
    all_goals exact contains_of_isApart ⟨_, rfl, by decide +kernel⟩ hc
  have hnone : Text.combiningClasses.find? (fun entry => entry.2.contains c.toNat) = none := by
    rw [List.find?_eq_none]
    intro entry hentry
    simpa using List.forall_iff_forall_mem.1 hranges entry hentry
  simp [Text.combiningClass, hnone]

set_option maxRecDepth 100000 in
/-- No pair composes an ideograph, nor has one as its second part. -/
theorem composedPairs_apart {n : Nat} {a b : Char} (h : (n, a, b) ∈ Text.composedPairs.entries) :
    isApart (n, n) = true ∧ isApart (b.toNat, b.toNat) = true := by
  obtain ⟨read, cs, htext, hall⟩ : ∃ read cs, Text.composedPairs = .ofText read (String.ofList cs) ∧
      ((entriesFrom none [] cs).filterMap read).all
        (fun e => isApart (e.1, e.1) && isApart (e.2.2.toNat, e.2.2.toNat)) = true := ⟨_, _, rfl, by decide +kernel⟩
  rw [← Table.toList_entries_ofText, ← htext] at hall
  simpa using List.all_eq_true.1 hall _ (Array.mem_toList_iff.2 h)

theorem split?_eq_none (hc : IsIdeograph c) : Text.split? c = none := by
  obtain ⟨hlow, hhigh⟩ := hc
  have hsyllable : Text.splitSyllable? c = none := by
    rw [Text.splitSyllable?]
    exact if_neg (by omega)
  have hpair : Text.composedPairs.find? c.toNat = none := by
    rw [Option.eq_none_iff_forall_not_mem]
    rintro ⟨a, b⟩ hfound
    have hapart := (composedPairs_apart (Table.mem_of_find? hfound)).1
    simp only [isApart, Bool.or_eq_true, decide_eq_true_eq] at hapart
    omega
  simp [Text.split?, hsyllable, hpair]

theorem join?_eq_none (hc : IsIdeograph c) (a : Char) : Text.join? a c = none := by
  obtain ⟨hlow, hhigh⟩ := hc
  have hsyllable : Text.joinSyllable? a c = none := by
    rw [Text.joinSyllable?]
    rw [if_neg (by omega), if_neg (by omega)]
  have hpair : Text.composing.find? (fun entry => entry.1 = c && entry.2.1 = a) = none := by
    rw [List.find?_eq_none]
    intro entry hentry hfound
    obtain ⟨⟨n, first, second⟩, hmem, rfl⟩ := List.mem_map.1 hentry
    have hapart := (composedPairs_apart (Array.mem_toList_iff.1 hmem)).2
    simp only [Bool.and_eq_true, decide_eq_true_eq] at hfound
    obtain ⟨rfl, -⟩ := hfound
    simp only [isApart, Bool.or_eq_true, decide_eq_true_eq] at hapart
    omega
  simp [Text.join?, hsyllable, hpair]

set_option maxRecDepth 100000 in
theorem isRightToLeft_eq_false (hc : IsIdeograph c) : (Text.Direction.ofChar c).isRightToLeft = false := by
  have hright : Text.Direction.rightToLeftRanges.contains c.toNat = false :=
    contains_of_isApart ⟨_, rfl, by decide +kernel⟩ hc
  have harabic : Text.Direction.arabicLetterRanges.contains c.toNat = false :=
    contains_of_isApart ⟨_, rfl, by decide +kernel⟩ hc
  have hnumber : Text.Direction.arabicNumberRanges.contains c.toNat = false :=
    contains_of_isApart ⟨_, rfl, by decide +kernel⟩ hc
  unfold Text.Direction.ofChar
  cases hfound : Text.Direction.tables.find? (fun entry => entry.2.contains c.toNat) with
  | none => rfl
  | some entry =>
      have hcontains := List.find?_some hfound
      have hmem := List.mem_of_find?_eq_some hfound
      simp only [Text.Direction.tables, List.mem_cons, List.not_mem_nil, or_false] at hmem
      rcases hmem with rfl | rfl | rfl | rfl | rfl | rfl | rfl | rfl | rfl | rfl
      · simp [hright] at hcontains
      · simp [harabic] at hcontains
      · rfl
      · rfl
      · rfl
      · simp [hnumber] at hcontains
      all_goals rfl

end NetGauge.Origin
