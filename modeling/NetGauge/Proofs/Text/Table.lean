import Mathlib.Algebra.Group.Nat.Defs
import Mathlib.Data.List.Chain
import NetGauge.Text.Table

set_option autoImplicit false

/-! # What a table says

The search in a table never makes up an entry (`Table.mem_of_atMost?`), and in a table whose ranges stand one behind
the other it finds the one that a code point lies in, so that membership is what the entries say
(`Ranges.contains_iff`). The entries themselves are read off the text of a table one by one
(`entriesOf_ofList`). -/

namespace NetGauge.Text

/-! ## The entries of a text -/

/-- The entries of the rest of a text, one of which may be open. -/
def entriesFrom (number : Option Nat) (entry : List Nat) : List Char → List (List Nat)
  | [] => if (number.toList ++ entry).isEmpty then [] else [(number.toList ++ entry).reverse]
  | c :: rest =>
    match hexDigit? c with
    | some d => entriesFrom (some (number.getD 0 * 16 + d)) entry rest
    | none =>
      if c = '-' then entriesFrom none (number.toList ++ entry) rest
      else if (number.toList ++ entry).isEmpty then entriesFrom none [] rest
      else (number.toList ++ entry).reverse :: entriesFrom none [] rest

namespace EntryReading

theorem endNumber_eq (r : EntryReading) :
    r.endNumber = { number := none, entry := r.number.toList ++ r.entry, entries := r.entries } := by
  obtain ⟨number, entry, entries⟩ := r
  cases number <;> rfl

theorem endEntry_eq (r : EntryReading) :
    r.endEntry = {
      entries := if (r.number.toList ++ r.entry).isEmpty then r.entries
        else r.entries.push (r.number.toList ++ r.entry).reverse } := by
  rw [endEntry, endNumber_eq]
  dsimp only
  by_cases hempty : (r.number.toList ++ r.entry).isEmpty = true
  · rw [if_pos hempty, if_pos hempty, List.isEmpty_iff.1 hempty]
  · rw [if_neg hempty, if_neg hempty]

theorem entries_foldl (cs : List Char) (r : EntryReading) :
    (cs.foldl step r).endEntry.entries.toList = r.entries.toList ++ entriesFrom r.number r.entry cs := by
  induction cs generalizing r with
  | nil =>
      rw [List.foldl_nil, endEntry_eq, entriesFrom]
      by_cases hempty : (r.number.toList ++ r.entry).isEmpty = true <;> simp [hempty]
  | cons c cs ih =>
      rw [List.foldl_cons, ih, step, entriesFrom]
      cases hexDigit? c with
      | some d => rfl
      | none =>
          dsimp only
          by_cases hhyphen : c = '-'
          · rw [if_pos hhyphen, if_pos hhyphen, endNumber_eq]
          · rw [if_neg hhyphen, if_neg hhyphen, endEntry_eq]
            by_cases hempty : (r.number.toList ++ r.entry).isEmpty = true <;> simp [hempty]

end EntryReading

theorem entriesOf_ofList (cs : List Char) : (entriesOf (String.ofList cs)).toList = entriesFrom none [] cs := by
  rw [entriesOf, String.toList_ofList, EntryReading.entries_foldl]
  rfl

/-! ## Searching -/

namespace Table

variable {α : Type} {t : Table α} {n : Nat}

theorem toList_entries_ofText (read : List Nat → Option (Nat × α)) (cs : List Char) :
    (ofText read (String.ofList cs)).entries.toList = (entriesFrom none [] cs).filterMap read := by
  rw [ofText, Array.toList_filterMap, entriesOf_ofList]

/-- What is found stands in the table, at or before the code point. -/
theorem mem_of_search {steps lo hi : Nat} {e : Nat × α} (h : t.search n steps lo hi = some e)
    (hlo : lo = 0 ∨ ∀ d, t.entries[lo - 1]? = some d → d.1 ≤ n) : e ∈ t.entries ∧ e.1 ≤ n := by
  induction steps generalizing lo hi with
  | zero => cases h
  | succ steps ih =>
      rw [search] at h
      by_cases hlt : lo < hi
      · rw [if_pos hlt] at h
        cases hmiddle : t.entries[(lo + hi) / 2]? with
        | none => simp [hmiddle] at h
        | some d =>
            obtain ⟨start, a⟩ := d
            simp only [hmiddle] at h
            by_cases hstart : start ≤ n
            · rw [if_pos hstart] at h
              refine ih h (.inr fun d hd => ?_)
              rw [Nat.add_sub_cancel, hmiddle, Option.some.injEq] at hd
              exact hd ▸ hstart
            · rw [if_neg hstart] at h
              exact ih h hlo
      · rw [if_neg hlt] at h
        by_cases hzero : lo = 0
        · rw [if_pos hzero] at h
          cases h
        · rw [if_neg hzero] at h
          exact ⟨Array.mem_of_getElem? h, hlo.resolve_left hzero e h⟩

/-- **The search makes nothing up.** -/
theorem mem_of_atMost? {e : Nat × α} (h : t.atMost? n = some e) : e ∈ t.entries ∧ e.1 ≤ n :=
  mem_of_search h (.inl rfl)

/-- What is found under a code point stands in the table. -/
theorem mem_of_find? {a : α} (h : t.find? n = some a) : (n, a) ∈ t.entries := by
  unfold find? at h
  split at h
  · next start b hfound =>
      split at h
      · next hstart =>
          injection h with h
          subst h hstart
          exact (mem_of_atMost? hfound).1
      · cases h
  · cases h

/-- Where all entries up to a place start at or before the code point and all behind it after it, the search comes
    to that place. -/
theorem search_eq {i : Nat} {e : Nat × α} (hentry : t.entries[i]? = some e)
    (hbefore : ∀ j ≤ i, ∀ d, t.entries[j]? = some d → d.1 ≤ n)
    (hafter : ∀ j, i < j → ∀ d, t.entries[j]? = some d → n < d.1) {steps lo hi : Nat} (hlo : lo ≤ i + 1)
    (hhi : i < hi) (hsize : hi ≤ t.entries.size) (hsteps : hi - lo < 2 ^ steps) :
    t.search n (steps + 1) lo hi = some e := by
  induction steps generalizing lo hi with
  | zero =>
      have hmeet : lo = i + 1 := by
        rw [Nat.pow_zero] at hsteps
        omega
      rw [search, if_neg (by omega), if_neg (by omega), hmeet, Nat.add_sub_cancel, hentry]
  | succ steps ih =>
      rw [search]
      by_cases hlt : lo < hi
      · obtain ⟨d, hmiddle⟩ : ∃ d, t.entries[(lo + hi) / 2]? = some d :=
          ⟨_, Array.getElem?_eq_getElem (show (lo + hi) / 2 < t.entries.size by omega)⟩
        rw [Nat.pow_succ] at hsteps
        rw [if_pos hlt]
        dsimp only
        rw [hmiddle]
        dsimp only
        by_cases hstart : d.1 ≤ n
        · rw [if_pos hstart]
          have hle : (lo + hi) / 2 ≤ i := Nat.le_of_not_lt fun hgt => by
            have hlate := hafter _ hgt _ hmiddle
            omega
          exact ih (by omega) hhi hsize (by omega)
        · rw [if_neg hstart]
          have hgt : i < (lo + hi) / 2 := Nat.lt_of_not_le fun hle => hstart (hbefore _ hle _ hmiddle)
          exact ih hlo hgt (by omega) (by omega)
      · have hmeet : lo = i + 1 := by omega
        rw [if_neg hlt, if_neg (by omega), hmeet, Nat.add_sub_cancel, hentry]

theorem atMost?_eq {i : Nat} {e : Nat × α} (hentry : t.entries[i]? = some e)
    (hbefore : ∀ j ≤ i, ∀ d, t.entries[j]? = some d → d.1 ≤ n)
    (hafter : ∀ j, i < j → ∀ d, t.entries[j]? = some d → n < d.1) : t.atMost? n = some e := by
  obtain ⟨hsize, -⟩ := Array.getElem?_eq_some_iff.1 hentry
  exact search_eq hentry hbefore hafter (Nat.zero_le _) hsize (Nat.le_refl _) Nat.lt_log2_self

end Table

/-! ## Ranges -/

namespace Ranges

/-- Whether a range stands before another one. -/
def Precedes (d e : Nat × Nat) : Prop := d.1 ≤ d.2 ∧ d.2 < e.1

instance (d e : Nat × Nat) : Decidable (Precedes d e) := inferInstanceAs (Decidable (_ ∧ _))

instance : Trans Precedes Precedes Precedes where
  trans hde hef := ⟨hde.1, Nat.lt_of_lt_of_le hde.2 (Nat.le_trans hef.1 (Nat.le_of_lt hef.2))⟩

/-- Ranges that stand one behind the other. -/
def IsSorted (r : Ranges) : Prop := r.entries.toList.IsChain Precedes

/-- The ranges of a text. -/
def ofEntries (entries : List (List Nat)) : List (Nat × Nat) :=
  entries.filterMap fun
    | [n] => some (n, n)
    | [first, last] => some (first, last)
    | _ => none

theorem toList_entries_ofText (cs : List Char) :
    (ofText (String.ofList cs)).entries.toList = ofEntries (entriesFrom none [] cs) :=
  Table.toList_entries_ofText _ cs

variable {r : Ranges} {n : Nat}

/-- A code point within the ranges lies in one of the entries, sorted or not. -/
theorem exists_of_contains (h : r.contains n = true) : ∃ e ∈ r.entries, e.1 ≤ n ∧ n ≤ e.2 := by
  unfold contains at h
  split at h
  · next first last hfound =>
      obtain ⟨hmem, hfirst⟩ := Table.mem_of_atMost? hfound
      exact ⟨(first, last), hmem, hfirst, by simpa using h⟩
  · cases h

theorem IsSorted.pairwise (h : r.IsSorted) : r.entries.toList.Pairwise Precedes := List.isChain_iff_pairwise.1 h

theorem IsSorted.contains_of_mem (h : r.IsSorted) {first last : Nat} (hmem : (first, last) ∈ r.entries)
    (hfirst : first ≤ n) (hlast : n ≤ last) : r.contains n = true := by
  obtain ⟨i, hi, hentry⟩ := Array.mem_iff_getElem.1 hmem
  have hfound : r.atMost? n = some (first, last) := by
    refine Table.atMost?_eq (i := i) (by rw [Array.getElem?_eq_getElem hi, hentry]) (fun j hj d hd => ?_)
      (fun j hj d hd => ?_)
    · obtain ⟨hsize, rfl⟩ := Array.getElem?_eq_some_iff.1 hd
      rcases Nat.eq_or_lt_of_le hj with rfl | hlt
      · rw [hentry]
        exact hfirst
      · have horder := List.pairwise_iff_getElem.1 h.pairwise j i hsize hi hlt
        rw [Array.getElem_toList, Array.getElem_toList, hentry] at horder
        exact Nat.le_trans horder.1 (Nat.le_trans (Nat.le_of_lt horder.2) hfirst)
    · obtain ⟨hsize, rfl⟩ := Array.getElem?_eq_some_iff.1 hd
      have horder := List.pairwise_iff_getElem.1 h.pairwise i j hi hsize hj
      rw [Array.getElem_toList, Array.getElem_toList, hentry] at horder
      exact Nat.lt_of_le_of_lt hlast horder.2
  simp [contains, hfound, hlast]

/-- **Membership in sorted ranges is what their entries say.** -/
theorem IsSorted.contains_iff (h : r.IsSorted) : r.contains n = true ↔ ∃ e ∈ r.entries, e.1 ≤ n ∧ n ≤ e.2 :=
  ⟨exists_of_contains, fun ⟨_, hmem, hfirst, hlast⟩ => h.contains_of_mem hmem hfirst hlast⟩

end Ranges

end NetGauge.Text
