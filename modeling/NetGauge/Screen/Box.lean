import NetGauge.Screen.Cells

set_option autoImplicit false

/-! # Boxes

What panels are built of: a box with a title around rows, a gauge with a label, and the rows of a
table. A panel has as many rows as it is high (`length_box`), and its rows have as many cells as it is
wide; where there is no room for all of its edges, the upper and the left one are kept. -/

namespace NetGauge.Screen

/-- A row between two edges. -/
def between (width : Nat) (left right : Char) (inner : Nat → Row) : Row :=
  match width with
  | 0 => []
  | 1 => [[left]]
  | width + 2 => [left] :: inner width ++ [[right]]

/-- The upper edge of a box, with its title. -/
def topEdge (width : Nat) (title : String) : Row :=
  between width '┌' '┐' (fun inner =>
    let shown := min inner (Screen.width title.toList)
    entry shown title ++ rule (inner - shown) '─')

/-- The lower edge of a box. -/
def bottomEdge (width : Nat) : Row := between width '└' '┘' (fun inner => rule inner '─')

/-- A row between the sides of a box. -/
def sides (width : Nat) (row : Row) : Row := between width '│' '│' (fun inner => fitCells inner row)

/-- Rows as far as they fit a height, filled up with empty ones. -/
def fitRows (height : Nat) (rows : List Row) : List Row :=
  rows.take height ++ List.replicate (height - rows.length) []

/-- Rows between the sides of a box and on its lower edge. -/
def tray (width height : Nat) (rows : List Row) : List Row :=
  match height with
  | 0 => []
  | height + 1 => (fitRows height rows).map (sides width) ++ [bottomEdge width]

/-- A box with a title around rows. -/
def box (width height : Nat) (title : String) (rows : List Row) : List Row :=
  match height with
  | 0 => []
  | height + 1 => topEdge width title :: tray width height rows

/-- How much of a width a share fills, in whole cells. -/
def filledCells (width percent : Nat) : Nat :=
  (Float.ofNat width * (Float.ofNat percent / 100.0)).round.toUInt64.toNat

/-- The row of a gauge: filled from the left, with a label in the middle. The cells of the label and the
    one behind it are not filled. -/
def gauge (width percent : Nat) (label : String) : Row :=
  let length := min width (Screen.width label.toList)
  let start := (width - length) / 2
  let filled := filledCells width percent
  let cell (i : Nat) : Cell := if i < filled ∧ (i < start ∨ start + length < i) then ['█'] else blank
  let cells := (List.range width).map cell
  cells.take start ++ entry length label ++ cells.drop (start + length)

/-! ## Tables -/

/-- The greatest width that columns can have where there is room for so much, those that ask for less
    having what they ask for. They stand in increasing order. -/
def commonWidth (room : Nat) : List Nat → Nat
  | [] => 0
  | asked :: rest =>
    if asked * (rest.length + 1) ≤ room then max asked (commonWidth (room - asked) rest)
    else room / (rest.length + 1)

/-- The widths of columns where there is room for so much. -/
def columnWidths (room : Nat) (asked : List Nat) : List Nat :=
  let common := commonWidth room (asked.mergeSort (· ≤ ·))
  asked.map (fun n => min n common)

/-- Where columns begin and end, counted in hundredths of a cell, with a cell between them. -/
def columnBounds (start : Nat) : List Nat → List (Nat × Nat)
  | [] => []
  | n :: rest => (start, start + n) :: columnBounds (start + n + 100) rest

/-- The nearest whole cell. -/
def wholeCells (hundredths : Nat) : Nat := (hundredths + 50) / 100

/-- A row of a table whose columns ask for so many cells. -/
def tableRow (width : Nat) (asked : List Nat) (cells : List String) : Row :=
  let room := (width - (asked.length - 1)) * 100
  let bounds := columnBounds 0 (columnWidths room (asked.map (· * 100)))
  (bounds.zip cells).foldl (fun row ((first, last), cell) =>
    let first := wholeCells first
    row ++ List.replicate (first - row.length) blank ++ entry (wholeCells last - first) cell) []

/-- A table under its header, closed at the sides and below. -/
def table (width height : Nat) (asked : List Nat) (header : List String)
    (rows : List (List String)) : List Row :=
  tray width height ((header :: rows).map (tableRow (width - 2) asked))

/-! ## Screens -/

/-- Panels side by side. -/
def beside (left right : List Row) : List Row := List.zipWith (· ++ ·) left right

/-- The words on a screen, once lines, blocks and dots are taken for blanks. -/
def words (rows : List String) : List String :=
  rows.flatMap (fun row =>
    let cs := row.toList.map (fun c => if 0x2500 ≤ c.toNat ∧ c.toNat ≤ 0x28FF then ' ' else c)
    ((cs.splitOn ' ').filter (fun w => !w.isEmpty)).map String.ofList)

/-! ## Sizes -/

theorem length_fitRows (height : Nat) (rows : List Row) : (fitRows height rows).length = height := by
  simp only [fitRows, List.length_append, List.length_take, List.length_replicate]
  omega

theorem length_tray (width height : Nat) (rows : List Row) :
    (tray width height rows).length = height := by
  cases height with
  | zero => rfl
  | succ height => simp [tray, length_fitRows]

/-- A box is as high as it is asked to be. -/
theorem length_box (width height : Nat) (title : String) (rows : List Row) :
    (box width height title rows).length = height := by
  cases height with
  | zero => rfl
  | succ height => simp [box, length_tray]

/-- The sides of a box are as far apart as it is wide. -/
theorem length_sides (width : Nat) (row : Row) : (sides width row).length = width := by
  match width with
  | 0 => rfl
  | 1 => rfl
  | width + 2 => simp [sides, between, length_fitCells]

end NetGauge.Screen
