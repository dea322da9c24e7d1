import NetGauge.Diagnostics
import NetGauge.Proofs.Text.Utf8

set_option autoImplicit false

/-! # What the diagnostics buffer holds

The buffer is written to in chunks, and every chunk is decoded and cut into lines by itself. While each
chunk ends with a newline this is the same as decoding and cutting the whole
(`Diagnostics.writeAll_lines`): a newline leaves the decoder at rest even in the middle of a character
(`Text.decodeFrom_append`), and what ends with a newline leaves nothing behind it but an empty line
(`Text.lines_append`). -/

namespace NetGauge

namespace Text

/-! ## Lines -/

/-- The lines of a text up to a newline and behind it are all the lines. -/
theorem lines_append (front back : List Char) :
    lines (String.ofList (front ++ '\n' :: back)) = lines (String.ofList front) ++ lines (String.ofList back) := by
  unfold lines
  rw [String.toList_ofList, String.toList_ofList, String.toList_ofList, List.splitOn_append_cons_self,
    List.map_append, List.filter_append]

theorem lines_nil : lines (String.ofList []) = [] := by
  decide

theorem lines_decodeLossy_append {chunk : List UInt8} (h : EndsLine chunk) (rest : List UInt8) :
    lines (decodeLossy (chunk ++ rest)) = lines (decodeLossy chunk) ++ lines (decodeLossy rest) := by
  obtain ⟨line, hchunk, hrest⟩ := decodeFrom_append h
  unfold decodeLossy
  rw [hrest, hchunk, lines_append, lines_append, lines_nil, List.append_nil]

end Text

/-! ## The newest of some items -/

section

variable {α : Type} (items : List α)

/-- No more than there are can be the last ones. -/
theorem lastItems_min_length (n : Nat) : lastItems (min n items.length) items = lastItems n items := by
  unfold lastItems
  congr 1
  omega

/-- Of the last items the last ones are last of all. -/
theorem lastItems_lastItems (n m : Nat) : lastItems n (lastItems m items) = lastItems (min n m) items := by
  unfold lastItems
  rw [List.drop_drop, List.length_drop]
  congr 1
  omega

theorem lastItems_suffix {n m : Nat} (h : n ≤ m) : lastItems n items <:+ lastItems m items := by
  have hlast := lastItems_lastItems items n m
  rw [Nat.min_eq_left h] at hlast
  rw [← hlast]
  exact List.drop_suffix _ _

end

/-! ## Writing -/

namespace Diagnostics

open Text (EndsLine)

/-- Writes one chunk after the other: how many bytes of each were taken, and what is held then. -/
def writeAll (d : Diagnostics) : List (List UInt8) → List Nat × Diagnostics
  | [] => ([], d)
  | chunk :: chunks =>
    let (taken, d) := d.write chunk
    let (others, d) := writeAll d chunks
    (taken :: others, d)

theorem writeAll_cons (d : Diagnostics) (chunk : List UInt8) (chunks : List (List UInt8)) :
    d.writeAll (chunk :: chunks) =
      (chunk.length :: (writeAll (d.write chunk).2 chunks).1, (writeAll (d.write chunk).2 chunks).2) := rfl

/-- All of every chunk is taken. -/
theorem taken_writeAll (d : Diagnostics) (chunks : List (List UInt8)) :
    (d.writeAll chunks).1 = chunks.map List.length := by
  induction chunks generalizing d with
  | nil => rfl
  | cons chunk chunks ih => rw [writeAll_cons, ih, List.map_cons]

theorem toList_write (d : Diagnostics) (chunk : List UInt8) :
    (d.write chunk).2.toList =
      lastItems diagnosticsCapacity (d.toList ++ Text.lines (Text.decodeLossy chunk)) :=
  d.toList_pushAll _

/-- Chunks that are cut between lines are held as one chunk would be. -/
theorem toList_writeAll (d : Diagnostics) {chunks : List (List UInt8)} (h : ∀ chunk ∈ chunks, EndsLine chunk) :
    (d.writeAll chunks).2.toList =
      lastItems diagnosticsCapacity (d.toList ++ Text.lines (Text.decodeLossy chunks.flatten)) := by
  induction chunks generalizing d with
  | nil =>
      have hnone : Text.lines (Text.decodeLossy ([] : List (List UInt8)).flatten) = [] := Text.lines_nil
      rw [hnone, List.append_nil, lastItems_of_length_le _ _ d.bounded]
      rfl
  | cons chunk chunks ih =>
      have hchunk := h chunk List.mem_cons_self
      have hlater := ih (d.write chunk).2 (fun later hlater => h later (List.mem_cons_of_mem chunk hlater))
      rw [writeAll_cons, hlater, toList_write, lastItems_append_lastItems, List.flatten_cons,
        Text.lines_decodeLossy_append hchunk, List.append_assoc]

theorem eq_of_toList_eq {d e : Diagnostics} (h : d.toList = e.toList) : d = e := by
  cases d
  cases e
  simpa using h

/-- **The buffer holds the newest lines.** Whatever bytes are written to a new buffer, in chunks that each
    end with a newline, every chunk is taken whole, and the buffer shows the last lines of all the bytes
    together: as many as are asked for, up to a thousand. So only the bytes count and not how they were cut
    into chunks, and who asks for more lines gets the same ones behind older ones. -/
theorem writeAll_lines {chunks : List (List UInt8)} (h : ∀ chunk ∈ chunks, EndsLine chunk) :
    let d := writeAll Recent.empty chunks
    let lines := Text.lines (Text.decodeLossy chunks.flatten)
    d.1 = chunks.map List.length ∧
    (∀ n, d.2.tail n = lastItems (min n (min 1000 lines.length)) lines) ∧
    (∀ others : List (List UInt8), (∀ chunk ∈ others, EndsLine chunk) → others.flatten = chunks.flatten →
      (writeAll Recent.empty others).2 = d.2) ∧
    ∀ n m : Nat, n ≤ m → d.2.tail n <:+ d.2.tail m := by
  intro d lines
  have hlines : d.2.toList = lastItems diagnosticsCapacity lines := toList_writeAll Recent.empty h
  refine ⟨taken_writeAll _ chunks, ?_, ?_, ?_⟩
  · intro n
    have htail : d.2.tail n = lastItems n (lastItems diagnosticsCapacity lines) := congrArg (lastItems n) hlines
    rw [htail, lastItems_lastItems, ← Nat.min_assoc, lastItems_min_length]
    rfl
  · intro others hothers hflatten
    have hsame := toList_writeAll Recent.empty hothers
    rw [hflatten] at hsame
    exact eq_of_toList_eq (hsame.trans hlines.symm)
  · intro n m hle
    exact lastItems_suffix d.2.toList hle

/-- A character that is cut by a newline, a line of blanks, and two lines in one chunk. -/
theorem writeAll_lines_cutCharacter :
    (∀ chunk ∈ [[0x61, 0xE2, 0x82, 10], [32, 10], [0xFF, 32, 10, 0x62, 10]], EndsLine chunk) ∧
    (writeAll Recent.empty [[0x61, 0xE2, 0x82, 10], [32, 10], [0xFF, 32, 10, 0x62, 10]]).2.tail 2 =
      ["\uFFFD", "b"] := by
  have hends : ∀ chunk ∈ [[0x61, 0xE2, 0x82, 10], [32, 10], [0xFF, 32, 10, 0x62, 10]], EndsLine chunk := by
    unfold EndsLine
    decide
  refine ⟨hends, ?_⟩
  rw [(writeAll_lines hends).2.1 2]
  decide

end Diagnostics

end NetGauge
