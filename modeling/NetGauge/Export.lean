import NetGauge.ClientState
import NetGauge.Clock
import NetGauge.Decimal.Fixed
import NetGauge.FileSystem

set_option autoImplicit false

/-! # Exports

What a client knows at one moment, as an indented JSON document, and the points of a sweep as a
table of comma-separated values. -/

namespace NetGauge

open Json (Form Value)

/-- The document of a state at a moment. The points of a sweep are left out when there are none. -/
def ClientState.document (s : ClientState) (moment : Moment) : Value :=
  let points := s.sweep.results
  .object [
    ("timestamp", .string moment.timestamp),
    ("mode", .string s.session.mode.name),
    ("configuration", Form.toValue s.request),
    ("results", .object (("metrics", Form.toValue s.latest) ::
      if points.isEmpty then [] else [("sweep", .ofList Form.toValue points)])),
    ("chart_data", s.telemetry.chart.toValue)]

/-- The text of a JSON export. -/
def ClientState.export (s : ClientState) (moment : Moment) : String := (s.document moment).indented

namespace SweepPoint

/-- The first line of a table of points. -/
def csvHeader : String :=
  "Message Size (bytes),Avg Latency (μs),Min (μs),P50 (μs),P90 (μs),P99 (μs),Max (μs)"

/-- The cells of a point: its size, and the latencies with two places. -/
def csvCells (p : SweepPoint) : List String :=
  toString p.payloadSize.toNat ::
    [p.avg, p.min, p.p50, p.p90, p.p99, p.max].map (Decimal.fixed 2)

/-- The line of a point. -/
def csvRow (p : SweepPoint) : String := String.intercalate "," p.csvCells

/-- A table with a line for every point. -/
def csv (points : List SweepPoint) : String :=
  String.join ((csvHeader :: points.map csvRow).map (fun line => line ++ "\n"))

end SweepPoint

/-! ## Writing -/

/-- Where exports go. A format without a path is not written. -/
structure ExportTargets where
  json : Option String := none
  csv : Option String := none
  deriving DecidableEq

namespace ExportTargets

def isEmpty (t : ExportTargets) : Bool := t.json.isNone && t.csv.isNone

/-- The targets themselves, or files named after the time when there are none. -/
def orTimestamped (t : ExportTargets) (now : DateTime) : ExportTargets :=
  if t.isEmpty then
    { json := some ("perf-lab-" ++ now.stamp ++ ".json")
      csv := some ("perf-lab-sweep-" ++ now.stamp ++ ".csv") }
  else t

end ExportTargets

/-- A format of exports. -/
inductive ExportFormat where
  | json
  | csv
  deriving DecidableEq

def ExportFormat.name : ExportFormat → String
  | .json => "JSON"
  | .csv => "CSV"

/-- A file to be written. -/
structure ExportFile where
  format : ExportFormat
  path : String
  content : String

/-- An export that could not be written. -/
structure ExportError where
  format : ExportFormat
  path : String
  cause : StorageError

namespace ExportError

/-- The wording of what failed and of its cause. -/
def chain (e : ExportError) : List String :=
  ["Failed to write " ++ e.format.name ++ " export " ++ e.path, e.cause.message]

/-- Failure and cause in one line. -/
def message (e : ExportError) : String := String.intercalate ": " e.chain

end ExportError

section

variable {δ : Type} [FileSystem δ]

/-- Writes files in their order and tells where they went. The first that fails ends it. -/
def ExportFile.writeAll : List ExportFile → δ → Except ExportError (List String) × δ
  | [], disk => (.ok [], disk)
  | file :: rest, disk =>
    match FileSystem.write disk file.path file.content with
    | (.error e, disk) => (.error ⟨file.format, file.path, e⟩, disk)
    | (.ok (), disk) =>
      let (written, disk) := writeAll rest disk
      (written.map (file.path :: ·), disk)

namespace ClientState

/-- The files of the exports that are wanted. Without points there is no table of them. -/
def exportFiles (s : ClientState) (now : Moment) (targets : ExportTargets) : List ExportFile :=
  let document := targets.json.map (fun path => ⟨.json, path, s.export now⟩)
  let points := s.sweep.results
  let table := if points.isEmpty then none
    else targets.csv.map (fun path => ⟨.csv, path, SweepPoint.csv points⟩)
  document.toList ++ table.toList

/-- Writes the exports that are wanted. -/
def writeExports (s : ClientState) (now : Moment) (targets : ExportTargets) (disk : δ) :
    Except ExportError (List String) × δ :=
  ExportFile.writeAll (s.exportFiles now targets) disk

end ClientState

end

end NetGauge
