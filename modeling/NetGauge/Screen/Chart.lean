import NetGauge.Decimal.Fixed
import NetGauge.Screen.Box
import NetGauge.Telemetry

set_option autoImplicit false

/-! # Charts

The frame of a chart over telemetry: its axes with their labels, and the names of its series. The
values themselves are dots, which this frame leaves blank. Without any value there is nothing to
scale the chart by, and the panel says so. -/

namespace NetGauge.Screen

/-- A chart: a title, and series with the names they go by. -/
structure Chart where
  title : String
  series : List (Series × String)

namespace Chart

def bandwidth : Chart := ⟨"Bandwidth (Mbps)", [(.bandwidth, "bandwidth")]⟩

def latency : Chart := ⟨"Latency (μs)", [(.latencyAvg, "avg"), (.latencyP99, "p99")]⟩

/-- The least finite number. -/
def lowest : Float := -1.7976931348623157e308

/-- The upper end of the scale: a tenth above the greatest value, and one at least. -/
def top? (c : Chart) (t : Telemetry) : Option Float :=
  let values := c.series.flatMap (fun s => (t.points s.1).map Prod.snd)
  let greatest := values.foldl (fun a x => if a < x then x else a) lowest
  if greatest == lowest then none
  else
    let top := greatest * 1.1
    some (if top < 1.0 then 1.0 else top)

/-- A quarter of a length in whole cells, a half rounded up. -/
def quarter (n : Nat) : Nat := (n + 2) / 4

/-- The box with the names of the series, if it takes no more than a quarter of the graph in either
    direction. -/
def legend (c : Chart) (width height : Nat) : List Row :=
  let names := c.series.map Prod.snd
  let inner := (names.map (fun n => Screen.width n.toList)).foldl max 0
  if inner + 2 ≤ quarter width ∧ names.length + 2 ≤ quarter height then
    box (inner + 2) (names.length + 2) "" (names.map (entry inner))
  else []

/-- What there is room for inside a chart. The labels of the first and the last tick come first, then
    the axes, and the graph has what is left of the height. -/
structure Layout where
  /-- The cells left of the axis, and whether there is a column for the axis itself. -/
  left : Nat
  hasColumn : Bool
  hasLabels : Bool
  hasRow : Bool
  graphWidth : Nat
  graphHeight : Nat

/-- The layout of a chart with some room inside its box, whose labels ask for so much at its left. -/
def Layout.of (width height asked : Nat) : Layout :=
  let left := min (width / 3) asked
  let hasColumn := left + 1 < width
  { left := left
    hasColumn := hasColumn
    hasLabels := 1 < height
    hasRow := 2 < height
    graphWidth := width - (if hasColumn then left + 1 else left)
    graphHeight := max 1 (height - 2) }

/-- The rows inside the box of a chart: the graph with the axis at its left, the axis below it, and the
    labels of the first and the last tick. -/
def frame (c : Chart) (width height : Nat) (top : Float) (first last : String) : List Row :=
  let label := Decimal.fixed 0 top
  let asked := max (Screen.width label.toList) (Screen.width first.toList - 1)
  let l := Layout.of width height asked
  let legend := c.legend l.graphWidth l.graphHeight
  let column (mark : Char) : Row := if l.hasColumn then [[mark]] else []
  let room := if l.hasColumn then l.left else l.left - 1
  let row (i : Nat) : Row :=
    let text := if i = 0 then label else if i + 1 = l.graphHeight then "0" else ""
    fitCells l.left (entry room text) ++ column '│' ++
      (let box := legend.getD i []
       List.replicate (l.graphWidth - box.length) blank ++ box)
  (List.range l.graphHeight).map row ++
    (if l.hasRow then [fitCells l.left [] ++ column '└' ++ rule l.graphWidth '─'] else []) ++
    (if l.hasLabels then
      let half := l.graphWidth / 2
      let before := entryRight (l.left + (if l.hasColumn then 1 else 0)) first
      [before ++ List.replicate (l.graphWidth - half) blank ++ entryRight half last]
    else [])

/-- The panel of a chart. -/
def panel (c : Chart) (width height : Nat) (t : Telemetry) : List Row :=
  box width height c.title (match c.top? t with
    | none => [line (width - 2) "Waiting for data"]
    | some top =>
      if width ≤ 2 ∨ height ≤ 2 then []
      else
        c.frame (width - 2) (height - 2) top (t.labels.head?.getD "") (t.labels.getLast?.getD ""))

end Chart

end NetGauge.Screen
