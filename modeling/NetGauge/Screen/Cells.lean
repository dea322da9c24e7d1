import NetGauge.Screen.Width
import NetGauge.Text.Grapheme

set_option autoImplicit false

/-! # Cells of a screen

A row of a screen is a list of cells, and a cell holds what is shown there: one grapheme, and whatever
fills no cell of its own behind it. A wide grapheme stands in the first of its cells and leaves the
others blank. Texts are put into rows in two ways: `entry` keeps the characters that fill no cell,
`line` leaves them out. Both fill exactly the width they are given (`length_entry`, `length_line`). -/

namespace NetGauge.Screen

/-- What is shown in a cell. -/
abbrev Cell := List Char

/-- Cells side by side. -/
abbrev Row := List Cell

/-- A cell without anything in it. -/
def blank : Cell := [' ']

/-- So many copies of a character. -/
def rule (width : Nat) (c : Char) : Row := List.replicate width [c]

/-- The text of a row. -/
def Row.text (row : Row) : String := String.ofList row.flatten

/-- The graphemes of a text that is a single line: line feeds are not shown. -/
def shown (text : String) : List (List Char) :=
  (Text.graphemes text.toList).filter (fun g => g ≠ ['\n'])

/-! ## Filling -/

/-- Cells as far as they fit a width, filled up with blanks. -/
def fitCells (width : Nat) (cells : Row) : Row :=
  cells.take width ++ List.replicate (width - cells.length) blank

/-- A grapheme with the blanks that belong to it. -/
def spread (g : List Char) : Row := g :: List.replicate (width g - 1) blank

/-- The cells of graphemes, up to the first that does not fit. Those that fill none are left out, and
    so are those that are wider than a whole row. -/
def lineCells (room left : Nat) : List (List Char) → Row
  | [] => []
  | g :: rest =>
    let n := width g
    if n = 0 ∨ room < n then lineCells room left rest
    else if left < n then []
    else spread g ++ lineCells room (left - n) rest

/-- A text as a row of a width. -/
def line (width : Nat) (text : String) : Row := fitCells width (lineCells width width (shown text))

/-- Puts more into the last of some cells. -/
def appendLast (g : List Char) : Row → Row
  | [] => []
  | [cell] => [cell ++ g]
  | cell :: rest => cell :: appendLast g rest

/-- The cells of graphemes behind `done`, up to the first that does not fit. One that fills none goes
    to the last cell before it, be it a blank one that belongs to a wide grapheme. -/
def entryCells (left : Nat) (done : Row) : List (List Char) → Row
  | [] => done
  | g :: rest =>
    let n := width g
    if n = 0 then entryCells left (appendLast g done) rest
    else if left < n then done
    else done ++ entryCells (left - n) (spread g) rest

/-- The cells of graphemes of which none has filled a cell yet: the first one that does shares its cell
    with those before it. -/
def firstCells (room : Nat) (before : List Char) : List (List Char) → Row
  | [] => [before]
  | g :: rest =>
    let n := width g
    if room < n then [if before.isEmpty then blank else before]
    else if n = 0 then firstCells room (before ++ g) rest
    else entryCells (room - n) ((before ++ g) :: List.replicate (n - 1) blank) rest

/-- A text as a row of a width, with the characters that fill no cell. A text that fills none is not
    shown. -/
def entry (width : Nat) (text : String) : Row :=
  let graphemes := shown text
  if graphemes.isEmpty ∨ Screen.width text.toList = 0 then fitCells width []
  else fitCells width (firstCells width [] graphemes)

/-- A text in a row of a width, at its right end. If it does not fit, its beginning is cut off. -/
def entryRight (width : Nat) (text : String) : Row :=
  let cells := entry (Screen.width text.toList) text
  List.replicate (width - cells.length) blank ++ cells.drop (cells.length - width)

/-! ## Lengths -/

theorem length_fitCells (width : Nat) (cells : Row) : (fitCells width cells).length = width := by
  simp only [fitCells, List.length_append, List.length_take, List.length_replicate]
  omega

/-- A text fills the row that it is put into, however long it is. -/
theorem length_line (width : Nat) (text : String) : (line width text).length = width :=
  length_fitCells width _

theorem length_entry (width : Nat) (text : String) : (entry width text).length = width := by
  simp only [entry]
  split
  · exact length_fitCells width _
  · exact length_fitCells width _

end NetGauge.Screen
