set_option autoImplicit false

/-! # The most recent items

A buffer that keeps the newest items and forgets the oldest when it is full. Whatever is pushed,
it holds exactly the last `capacity` items of everything pushed (`toList_pushAll`). -/

namespace NetGauge

variable {α : Type}

/-- The last `n` items of a list. -/
def lastItems (n : Nat) (items : List α) : List α := items.drop (items.length - n)

theorem length_lastItems_le (n : Nat) (items : List α) : (lastItems n items).length ≤ n := by
  simp only [lastItems, List.length_drop]; omega

theorem lastItems_of_length_le (n : Nat) (items : List α) (h : items.length ≤ n) :
    lastItems n items = items := by
  simp [lastItems, Nat.sub_eq_zero_of_le h]

@[simp]
theorem lastItems_nil (n : Nat) : lastItems n ([] : List α) = [] := by simp [lastItems]

theorem lastItems_map {β : Type} (f : α → β) (n : Nat) (items : List α) :
    (lastItems n items).map f = lastItems n (items.map f) := by
  simp [lastItems]

/-- The last items, newest first. -/
theorem reverse_lastItems (n : Nat) (items : List α) :
    (lastItems n items).reverse = items.reverse.take n := by
  rw [lastItems, List.reverse_drop, ← List.length_reverse, List.take_eq_take_iff]
  omega

/-- The newest item is always kept. -/
theorem lastItems_concat {n : Nat} (hpos : 0 < n) (items : List α) (a : α) :
    lastItems n (items ++ [a]) = lastItems (n - 1) items ++ [a] := by
  have hcut : (items ++ [a]).length - n = items.length - (n - 1) := by simp; omega
  rw [lastItems, hcut, List.drop_append_of_le_length (by omega), lastItems]

/-- With one item too many, dropping the oldest keeps the last ones. -/
theorem drop_concat_eq_lastItems {n : Nat} {items : List α} (a : α) (h : items.length ≤ n) :
    (if n < items.length + 1 then (items ++ [a]).drop 1 else items ++ [a]) =
      lastItems n (items ++ [a]) := by
  rw [lastItems, List.length_append, List.length_singleton]
  split
  · rw [show items.length + 1 - n = 1 by omega]
  · rw [show items.length + 1 - n = 0 by omega, List.drop_zero]

/-- Forgetting before an item comes changes nothing that is kept after it. -/
theorem lastItems_append_lastItems (n : Nat) (xs ys : List α) :
    lastItems n (lastItems n xs ++ ys) = lastItems n (xs ++ ys) := by
  unfold lastItems
  rw [← List.drop_append_of_le_length (by omega), List.drop_drop]
  congr 1
  simp only [List.length_drop, List.length_append]
  omega

/-- The newest `capacity` items, oldest first. -/
structure Recent (capacity : Nat) (α : Type) where
  toList : List α
  bounded : toList.length ≤ capacity

namespace Recent

variable {capacity : Nat}

/-- A buffer with nothing in it. -/
def empty : Recent capacity α := ⟨[], Nat.zero_le _⟩

/-- Adds the newest item. -/
def push (r : Recent capacity α) (a : α) : Recent capacity α :=
  ⟨lastItems capacity (r.toList ++ [a]), length_lastItems_le _ _⟩

/-- Adds items, the last one newest. -/
def pushAll (r : Recent capacity α) (items : List α) : Recent capacity α := items.foldl push r

/-- The newest `n` items, oldest first. -/
def tail (r : Recent capacity α) (n : Nat) : List α := lastItems n r.toList

@[simp]
theorem toList_push (r : Recent capacity α) (a : α) :
    (r.push a).toList = lastItems capacity (r.toList ++ [a]) := rfl

/-- What is pushed into a full buffer takes the place of the oldest item. -/
theorem toList_push_of_pos (r : Recent capacity α) (a : α) (hpos : 0 < capacity) :
    (r.push a).toList =
      (if r.toList.length = capacity then r.toList.tail else r.toList) ++ [a] := by
  have hlen := r.bounded
  rw [toList_push]
  split
  · next hfull =>
      have hcut : (r.toList ++ [a]).length - capacity = 1 := by simp [hfull]
      rw [lastItems, hcut, List.drop_append_of_le_length (by omega), List.drop_one]
  · next hroom => exact lastItems_of_length_le _ _ (by simp; omega)

/-- After any pushes the buffer holds the last items of all that came. -/
theorem toList_pushAll (r : Recent capacity α) (items : List α) :
    (r.pushAll items).toList = lastItems capacity (r.toList ++ items) := by
  induction items generalizing r with
  | nil => simp [pushAll, lastItems_of_length_le _ _ r.bounded]
  | cons a rest ih =>
    have h : r.pushAll (a :: rest) = (r.push a).pushAll rest := rfl
    rw [h, ih, toList_push, lastItems_append_lastItems, List.append_assoc, List.singleton_append]

end Recent

end NetGauge
