import NetGauge.Text.Digits

set_option autoImplicit false

/-! # Tables over code points

What is known of single characters stands in tables that are sorted by code point and searched by
halving. A table is written down as a text: its entries stand between blanks, and an entry is a
series of hexadecimal numbers with hyphens between them. -/

namespace NetGauge.Text

/-! ## The written form -/

/-- A text of entries that has been read in part: the number and the entry that are open, last
    number first, and the entries before them. -/
structure EntryReading where
  number : Option Nat := none
  entry : List Nat := []
  entries : Array (List Nat) := #[]

namespace EntryReading

/-- Ends the open number. -/
def endNumber (r : EntryReading) : EntryReading :=
  match r.number with
  | some n => { r with number := none, entry := n :: r.entry }
  | none => r

/-- Ends the open entry, if there is one. -/
def endEntry (r : EntryReading) : EntryReading :=
  let r := r.endNumber
  if r.entry.isEmpty then r
  else { r with entry := [], entries := r.entries.push r.entry.reverse }

/-- Takes one character. -/
def step (r : EntryReading) (c : Char) : EntryReading :=
  match hexDigit? c with
  | some d => { r with number := some (r.number.getD 0 * 16 + d) }
  | none => if c = '-' then r.endNumber else r.endEntry

end EntryReading

/-- The entries of a text. -/
def entriesOf (text : String) : Array (List Nat) :=
  (text.toList.foldl EntryReading.step {}).endEntry.entries

/-! ## Searching -/

/-- Entries under code points, in increasing order. -/
structure Table (α : Type) where
  entries : Array (Nat × α)

namespace Table

variable {α : Type}

/-- A table of those entries that `read` understands. -/
def ofText (read : List Nat → Option (Nat × α)) (text : String) : Table α :=
  ⟨(entriesOf text).filterMap read⟩

/-- The last entry at or before a code point, when all entries below `lo` are and none from `hi` on
    is. Every step halves what lies between them. -/
def search (t : Table α) (n : Nat) : Nat → Nat → Nat → Option (Nat × α)
  | 0, _, _ => none
  | steps + 1, lo, hi =>
    if lo < hi then
      let middle := (lo + hi) / 2
      match t.entries[middle]? with
      | none => none
      | some (start, _) =>
        if start ≤ n then search t n steps (middle + 1) hi else search t n steps lo middle
    else if lo = 0 then none
    else t.entries[lo - 1]?

/-- The last entry at or before a code point. -/
def atMost? (t : Table α) (n : Nat) : Option (Nat × α) :=
  t.search n (t.entries.size.log2 + 2) 0 t.entries.size

/-- The entry of a code point itself. -/
def find? (t : Table α) (n : Nat) : Option α :=
  match t.atMost? n with
  | some (start, a) => if start = n then some a else none
  | none => none

end Table

/-! ## Ranges -/

/-- Ranges of code points: under the first one of each its last. -/
abbrev Ranges := Table Nat

namespace Ranges

/-- Ranges whose entries are a single code point, or the first and the last one. -/
def ofText (text : String) : Ranges :=
  Table.ofText (fun
    | [n] => some (n, n)
    | [first, last] => some (first, last)
    | _ => none) text

/-- Whether a code point lies within one of the ranges. -/
def contains (r : Ranges) (n : Nat) : Bool :=
  match r.atMost? n with
  | some (_, last) => n ≤ last
  | none => false

end Ranges

end NetGauge.Text
