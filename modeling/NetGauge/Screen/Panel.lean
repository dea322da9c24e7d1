import NetGauge.ClientState
import NetGauge.Diagnostics
import NetGauge.Measure
import NetGauge.Screen.Chart

set_option autoImplicit false

/-! # The panels of the dashboard

What a client knows, laid out on a screen: a bar with mode, test, status and link, two charts, the
latest figures, the sweep, the servers, and the log. -/

namespace NetGauge.Screen

/-- A name in a column of a width, and what stands beside it. -/
def labelled (width : Nat) (name value : String) : String :=
  name ++ String.ofList (List.replicate (width - name.length) ' ') ++ value

/-- The keys that the dashboard knows. -/
def keyHints : String :=
  "(q)uit (m)ode (1-6)test (s)tart (x)stop (t)/(l) servers (r)efresh (g)stats (e)xport " ++
    "(d)iagnostics (c)lear"

/-- The mode in capitals. -/
def modeTitle : Mode → String
  | .generator => "GENERATOR"
  | .listener => "LISTENER"

/-- The bar at the top. -/
def control (s : ClientState) (width height : Nat) : List Row :=
  box width height "perf-lab" ([
    "Mode: " ++ modeTitle s.session.mode ++ " | Test: " ++ s.request.kind.label ++ " -> " ++
      s.request.target ++ " | Status: " ++ s.session.status.name ++ " | Link: " ++
      s.connectivity.name,
    keyHints].map (line (width - 2)))

/-- How many lines of a log are shown. -/
def visibleLines (height : Nat) : Nat := max height 3 - 2

/-- The newest entries of the log. -/
def activity (log : ActivityLog) (width height : Nat) : List Row :=
  box width height "Activity" ((log.tail (visibleLines height)).map (fun e =>
    entry (width - 2) ("[" ++ e.label ++ "] " ++ e.message)))

/-- The lines of an item of a list. -/
def itemLines (text : String) : List String :=
  let pieces := text.toList.splitOn '\n'
  let ended := pieces.dropLast.map (fun cs => if cs.getLast? = some '\r' then cs.dropLast else cs)
  let last := pieces.getLast?.getD []
  (if last.isEmpty ∧ !ended.isEmpty then ended else ended ++ [last]).map String.ofList

/-- The items of a list for which there is room, as a whole and in order. -/
def fitItems (room : Nat) : List (List Row) → List Row
  | [] => []
  | item :: rest =>
    if room < item.length then [] else item ++ fitItems (room - item.length) rest

/-- The newest lines of what the program itself logs. -/
def diagnostics (lines : Diagnostics) (width height : Nat) : List Row :=
  box width height "Diagnostics" (fitItems (height - 2) ((lines.tail (visibleLines height)).map
    (fun text => (itemLines text).map (entry (width - 2)))))

/-- How many packets came of those that were sent. -/
def packets (m : Metrics) : Option String :=
  m.packetsSent.map (fun sent =>
    match m.packetsReceived with
    | some received => toString received.toNat ++ "/" ++ toString sent.toNat
    | none => toString sent.toNat)

/-- The latest figures. -/
def results (m : Metrics) (width height : Nat) : List Row :=
  let row (name : String) (value : Option String) : String := labelled 12 name (value.getD "-")
  box width height "Results" ([
    row "Bandwidth" (m.bandwidthMbps.map Measure.bandwidth),
    row "Latency avg" (m.latencyAvgUs.map Measure.latency),
    row "Latency p50" (m.latencyP50Us.map Measure.latency),
    row "Latency p99" (m.latencyP99Us.map Measure.latency),
    row "Jitter" (m.jitterMs.map Measure.jitter),
    row "Loss" (m.lossPercent.map Measure.percent),
    row "Retransmits" (m.retransmits.map (fun n => toString n.toNat)),
    row "Packets" (packets m)].map (line (width - 2)))

/-- How far a sweep has come, in words. -/
def sweepLabel (s : Sweep) : String :=
  match s.active, s.final with
  | some p, _ =>
    toString p.ordinal ++ "/" ++ toString p.total ++ " sizes, now " ++
      toString p.currentSize.toNat ++ " bytes"
  | none, some _ => "complete"
  | none, none => "idle"

/-- The cells of a point. -/
def sweepRow (p : SweepPoint) : List String :=
  toString p.payloadSize.toNat :: [p.avg, p.p50, p.p99, p.max].map Measure.latency

/-- The sweep: a gauge and below it the points. -/
def sweep (s : Sweep) (width height : Nat) : List Row :=
  box width (min 3 height) "Sweep" [gauge (width - 2) s.percent (sweepLabel s)] ++
    table width (height - 3) [6, 11, 11, 11, 11] ["Bytes", "Avg", "P50", "P99", "Max"]
      (s.results.map sweepRow)

/-- The servers of the backend. -/
def servers (status : ServerStatus) (width height : Nat) : List Row :=
  let state (server : Server) (running : Bool) : String :=
    labelled 9 server.name (if running then "running" else "stopped")
  box width height "Servers" ([
    state .throughput status.throughputRunning,
    state .latency status.latencyRunning].map (line (width - 2)))

end NetGauge.Screen
