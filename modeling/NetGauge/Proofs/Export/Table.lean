import NetGauge.Export
import NetGauge.Proofs.Text.Pieces

set_option autoImplicit false

/-! # Tables of sweep points

A table can be taken apart again, whatever was measured: at its line breaks into the header and one line
for each point, and each line at its commas into seven cells (`SweepPoint.csv_lines`). Nothing is quoted
in it, so this rests on what a latency looks like when it is written with a fixed number of places: a
number of any size has digits and one point and nothing else, and what is no number has a name without a
comma (`Decimal.Written`). -/

namespace NetGauge

/-! ## Numbers with a fixed number of places -/

namespace Decimal

/-- A number with so many places behind the point, and one digit or more before it. -/
def InPlaces (places : Nat) (text : List Char) : Prop :=
  ∃ sign whole part, text = sign ++ (whole ++ '.' :: part) ∧ (sign = [] ∨ sign = ['-']) ∧
    whole ≠ [] ∧ part.length = places ∧ ∀ c ∈ whole ++ part, c.isDigit = true

/-- How a double may be written: as a number in places, or by the name of what is no number. -/
def Written (places : Nat) (text : List Char) : Prop :=
  text = "inf".toList ∨ text = "-inf".toList ∨ text = "NaN".toList ∨ InPlaces places text

/-- The characters of numbers and names, the digits apart. -/
def marks : List Char := "-.infNa".toList

theorem isDigit_toDigits (n : Nat) : ∀ c ∈ Nat.toDigits 10 n, c.isDigit = true :=
  fun _ hc => Nat.isDigit_of_mem_toDigits (by decide) (by decide) hc

/-- A point that is put before the last places leaves so many digits behind it, filled up with zeros. -/
theorem withPoint_parts {places : Nat} (h : 0 < places) (n : Nat) :
    ∃ whole part, withPoint places n = whole ++ '.' :: part ∧ whole ≠ [] ∧ part.length = places ∧
      ∀ c ∈ whole ++ part, c.isDigit = true := by
  have hplaces : ¬(places == 0) = true := by simpa using Nat.pos_iff_ne_zero.1 h
  have hrest : n % Nat.pow 10 places < 10 ^ places := Nat.mod_lt n (Nat.pow_pos (by decide))
  have hfits : (Nat.toDigits 10 (n % Nat.pow 10 places)).length ≤ places :=
    (Nat.length_toDigits_le_iff (by decide) h).2 hrest
  refine ⟨_, _, by rw [withPoint, if_neg hplaces], ?_, ?_, ?_⟩
  · exact List.ne_nil_of_length_pos Nat.length_toDigits_pos
  · rw [List.length_append, List.length_replicate]
    omega
  · intro c hc
    rw [List.mem_append, List.mem_append] at hc
    rcases hc with hc | hc | hc
    · exact isDigit_toDigits _ c hc
    · rw [List.eq_of_mem_replicate hc]
      rfl
    · exact isDigit_toDigits _ c hc

/-- **Every double is written in one of these ways,** however great or small it is. -/
theorem written_fixed {places : Nat} (h : 0 < places) (x : Float) :
    Written places (fixed places x).toList := by
  unfold fixed
  split
  · exact .inr (.inr (.inl rfl))
  · exact .inl rfl
  · exact .inr (.inl rfl)
  · next negative mantissa exponent _ =>
      obtain ⟨whole, part, htext, hwhole, hpart, hdigits⟩ :=
        withPoint_parts h (scaled places mantissa exponent)
      rw [String.toList_ofList, htext]
      cases negative with
      | false => exact .inr (.inr (.inr ⟨[], whole, part, rfl, .inl rfl, hwhole, hpart, hdigits⟩))
      | true => exact .inr (.inr (.inr ⟨['-'], whole, part, rfl, .inr rfl, hwhole, hpart, hdigits⟩))

theorem Written.mem {places : Nat} {text : List Char} (h : Written places text) {c : Char}
    (hc : c ∈ text) : c.isDigit = true ∨ c ∈ marks := by
  rcases h with rfl | rfl | rfl | ⟨sign, whole, part, rfl, hsign, -, -, hdigits⟩
  · exact .inr ((by decide : "inf".toList ⊆ marks) hc)
  · exact .inr ((by decide : "-inf".toList ⊆ marks) hc)
  · exact .inr ((by decide : "NaN".toList ⊆ marks) hc)
  · rw [List.mem_append, List.mem_append, List.mem_cons] at hc
    rcases hc with hc | hc | rfl | hc
    · rcases hsign with rfl | rfl
      · cases hc
      · rw [List.mem_singleton.1 hc]
        exact .inr (by decide)
    · exact .inl (hdigits c (List.mem_append_left part hc))
    · exact .inr (by decide)
    · exact .inl (hdigits c (List.mem_append_right whole hc))

end Decimal

/-! ## Lines and cells -/

namespace SweepPoint

variable (p : SweepPoint)

/-- The latencies of a point as they are written. -/
def csvLatencies : List (List Char) :=
  [p.avg, p.min, p.p50, p.p90, p.p99, p.max].map (fun x => (Decimal.fixed 2 x).toList)

theorem written_csvLatencies : ∀ cell ∈ p.csvLatencies, Decimal.Written 2 cell := by
  intro cell hcell
  obtain ⟨x, -, rfl⟩ := List.mem_map.1 hcell
  exact Decimal.written_fixed (by decide) x

theorem toList_csvCells :
    p.csvCells.map String.toList = Nat.toDigits 10 p.payloadSize.toNat :: p.csvLatencies := by
  have hsize : (toString p.payloadSize.toNat).toList = Nat.toDigits 10 p.payloadSize.toNat :=
    String.toList_ofList
  rw [csvCells, List.map_cons, hsize, List.map_map]
  rfl

theorem mem_csvCell {cell : List Char} (hcell : cell ∈ p.csvCells.map String.toList) {c : Char}
    (hc : c ∈ cell) : c.isDigit = true ∨ c ∈ Decimal.marks := by
  rw [toList_csvCells, List.mem_cons] at hcell
  rcases hcell with rfl | hcell
  · exact .inl (Decimal.isDigit_toDigits _ c hc)
  · exact (p.written_csvLatencies cell hcell).mem hc

/-- **A line falls into its cells** at the commas. -/
theorem splitOn_csvRow :
    p.csvRow.toList.splitOn ',' = Nat.toDigits 10 p.payloadSize.toNat :: p.csvLatencies := by
  have hcomma : ∀ cell ∈ p.csvCells.map String.toList, ',' ∉ cell := by
    intro cell hcell hc
    exact absurd (p.mem_csvCell hcell hc) (by decide)
  rw [csvRow, String.toList_intercalate, ← toList_csvCells]
  exact List.splitOn_intercalate ',' hcomma (by simp [csvCells])

theorem newline_not_mem_csvRow : '\n' ∉ p.csvRow.toList := by
  intro hc
  rw [csvRow, String.toList_intercalate] at hc
  rcases mem_of_mem_intercalate hc with heq | ⟨cell, hcell, hc⟩
  · cases heq
  · exact absurd (p.mem_csvCell hcell hc) (by decide)

/-- The text of a table, line by line. -/
theorem toList_csv (points : List SweepPoint) :
    (csv points).toList =
      ((csvHeader :: points.map csvRow).map String.toList).flatMap (fun line => line ++ ['\n']) := by
  rw [csv, String.toList_join, List.flatMap_map, List.flatMap_map]
  congr 1
  funext line
  exact String.toList_append

/-- **A table falls into its lines** at the line breaks. -/
theorem splitOn_csv (points : List SweepPoint) :
    (csv points).toList.splitOn '\n' = (csvHeader :: points.map csvRow).map String.toList ++ [[]] := by
  rw [toList_csv]
  refine splitOn_closed ?_
  rw [List.map_cons, List.forall_mem_cons, List.map_map]
  refine ⟨by decide, ?_⟩
  intro line hline
  obtain ⟨p, -, rfl⟩ := List.mem_map.1 hline
  exact p.newline_not_mem_csvRow

/-- A size can be told from its digits. -/
theorem sizeDigits_injective : Function.Injective (fun p : UInt32 => Nat.toDigits 10 p.toNat) := by
  intro size other h
  have hvalue := congrArg (fun digits => Nat.ofDigitChars 10 digits 0) h
  simp only [Nat.ofDigitChars_ten_toDigits] at hvalue
  exact UInt32.toNat_inj.1 hvalue

/-- The first cells of a table's lines are the sizes of the points. -/
theorem firstCells (points : List SweepPoint) :
    ((points.map csvRow).map String.toList).map (fun line => (line.splitOn ',').headD []) =
      (points.map payloadSize).map (fun size => Nat.toDigits 10 size.toNat) := by
  rw [List.map_map, List.map_map, List.map_map]
  refine List.map_congr_left ?_
  intro p _
  rw [Function.comp_apply, Function.comp_apply, Function.comp_apply, p.splitOn_csvRow, List.headD_cons]

/-- The sizes of the points can be told from the table. -/
theorem payloadSizes_of_csv_eq {points others : List SweepPoint} (h : csv points = csv others) :
    points.map payloadSize = others.map payloadSize := by
  -- The lines are those of the other table, so their first cells are, too.
  have hlines := splitOn_csv points
  rw [h, splitOn_csv others, List.append_cancel_right_eq, List.map_cons, List.map_cons] at hlines
  have hrows := (List.cons.inj hlines).2
  have hsizes := congrArg (List.map (fun line => (line.splitOn ',').headD [])) hrows
  rw [firstCells, firstCells] at hsizes
  exact ((List.map_inj_right fun size other heq => sizeDigits_injective heq).1 hsizes).symm

/-- A table ends with a line break. -/
theorem getLast?_csv (points : List SweepPoint) : (csv points).toList.getLast? = some '\n' := by
  have hlines : csvHeader :: points.map csvRow ≠ [] := List.cons_ne_nil _ _
  rw [toList_csv, ← List.dropLast_concat_getLast hlines, List.map_append, List.flatMap_append,
    List.map_singleton, List.flatMap_singleton, ← List.append_assoc, List.getLast?_concat]

/-- **A table of points has their structure,** whatever was measured. Its text ends with a line break; its
    lines are the header and one line for each point, in their order; and each line has seven cells. The
    first cell of a point is its size in decimal digits, and the others are its latencies, as numbers with
    two places or as names of what is no number. So points with the same table are as many and have the
    same sizes. -/
theorem csv_lines (points : List SweepPoint) :
    (csv points).toList.getLast? = some '\n' ∧
    (csv points).toList.splitOn '\n' = (csvHeader :: points.map csvRow).map String.toList ++ [[]] ∧
    (∀ line ∈ csvHeader :: points.map csvRow, (line.toList.splitOn ',').length = 7) ∧
    (∀ p : SweepPoint,
      p.csvRow.toList.splitOn ',' = Nat.toDigits 10 p.payloadSize.toNat :: p.csvLatencies ∧
      ∀ cell ∈ p.csvLatencies, Decimal.Written 2 cell) ∧
    ∀ others, csv points = csv others →
      points.length = others.length ∧ points.map payloadSize = others.map payloadSize := by
  refine ⟨getLast?_csv points, splitOn_csv points, ?_, fun p => ⟨p.splitOn_csvRow, p.written_csvLatencies⟩, ?_⟩
  · rw [List.forall_mem_cons]
    refine ⟨by decide, ?_⟩
    intro line hline
    obtain ⟨p, -, rfl⟩ := List.mem_map.1 hline
    rw [p.splitOn_csvRow]
    rfl
  · intro others h
    have hsizes := payloadSizes_of_csv_eq h
    exact ⟨by simpa using congrArg List.length hsizes, hsizes⟩

end SweepPoint

end NetGauge
