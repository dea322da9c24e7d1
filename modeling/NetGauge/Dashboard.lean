import NetGauge.Export
import NetGauge.Link.Supervisor
import NetGauge.Screen.Panel

set_option autoImplicit false

/-! # The dashboard

The dashboard owns a console whose commands go to a supervised link. Every tick it reads the
notifications that have come, and in between it reacts to keys. Notifications are read one after
the other, so it does not matter in how many ticks they come (`drain_append`). -/

namespace NetGauge

open Link (Inbound Handle)

/-- A key: a character, or one that has none. -/
inductive Key where
  | char (c : Char)
  | other
  deriving DecidableEq

/-- A console on a screen. -/
structure Dashboard where
  console : Console Handle
  /-- What the program itself logs, if it is kept. -/
  diagnostics : Option Diagnostics := none
  showsDiagnostics : Bool := false
  targets : ExportTargets := {}
  /-- Whether the end of the supervisor has been told. -/
  linkLost : Bool := false

namespace Dashboard

/-- Changes the console. -/
def onConsole (d : Dashboard) (change : Console Handle → Console Handle) : Dashboard :=
  { d with console := change d.console }

/-! ## Notifications -/

/-- One notification. -/
def receive (label : String) (d : Dashboard) (m : Inbound) : Dashboard :=
  d.onConsole (fun c =>
    match m with
    | .connected => c.onConnected label
    | .disconnected => c.onDisconnected label
    | .payload text => c.handlePayload label text)

/-- The supervisor is gone; this is told once. -/
def noticeEnd (label : String) (d : Dashboard) : Dashboard :=
  if d.linkLost then d
  else
    { d.onConsole (fun c => c.record label .error "Connection supervisor stopped") with
      linkLost := true }

/-- Reads the notifications that have come, and after them the end of their supervisor. -/
def drain (label : String) (d : Dashboard) (arrived : List Inbound) (ended : Bool) : Dashboard :=
  let d := arrived.foldl (receive label) d
  if ended then d.noticeEnd label else d

/-! ## Keys -/

/-- Starts a server that is stopped and stops one that runs. -/
def toggle (s : ClientState) (server : Server) : Intent :=
  let running := match server with
    | .throughput => s.serverStatus.throughputRunning
    | .latency => s.serverStatus.latencyRunning
  if running then .stopServer server else .startServer server

/-- Forgets the run, unless a test is in progress. -/
def clear (label : String) (c : Console Handle) : Console Handle :=
  if c.state.session.isIdle then c.reset.record label .info "Cleared run data"
  else c.record label .error "Stop the running test before clearing"

/-- Writes the exports and tells which. -/
def writeExports {δ : Type} [FileSystem δ] (now : Moment) (d : Dashboard) (disk : δ) : Dashboard × δ :=
  let targets := d.targets.orTimestamped now.dateTime
  let (written, disk) := d.console.state.writeExports now targets disk
  let (level, message) : LogLevel × String := match written with
    | .ok [] => (.info, "Nothing to export")
    | .ok paths => (.success, "Exported " ++ String.intercalate ", " paths)
    | .error e => (.error, e.message)
  (d.onConsole (fun c => c.record now.label level message), disk)

/-- The kind that a digit selects. -/
def kindOfDigit? (c : Char) : Option TestKind :=
  if '1' ≤ c then TestKind.all[c.toNat - '1'.toNat]? else none

/-- What a character does to the console, if anything. -/
def onChar (label : String) (c : Console Handle) (key : Char) : Console Handle :=
  let submit (intent : Intent) : Console Handle := (c.submit intent label).2
  match key with
  | 'm' => (c.setMode label c.state.session.mode.toggled).2
  | 's' => submit .startTest
  | 'x' => submit .stopTest
  | 't' => submit (toggle c.state .throughput)
  | 'l' => submit (toggle c.state .latency)
  | 'r' => submit .refreshServerStatus
  | 'g' => submit .requestStats
  | 'c' => clear label c
  | key =>
    match kindOfDigit? key with
    | some kind => (c.selectTest label kind).2
    | none => c

/-- Reacts to a key. Without a dashboard to go on with, the user has quit. -/
def press {δ : Type} [FileSystem δ] (now : Moment) (d : Dashboard) (disk : δ) : Key → Option Dashboard × δ
  | .char 'q' => (none, disk)
  | .char 'e' =>
    let (d, disk) := d.writeExports now disk
    (some d, disk)
  | .char 'd' => (some { d with showsDiagnostics := !d.showsDiagnostics }, disk)
  | .char c => (some (d.onConsole (fun console => onChar now.label console c)), disk)
  | .other => (some d, disk)

/-! ## The screen -/

/-- A part of the screen. -/
inductive Panel where
  | control
  | log
  | results
  | servers
  | sweep
  | bandwidth
  | latency
  | all
  deriving DecidableEq

/-- The log, or in its place what the program itself logs. -/
def log (d : Dashboard) (width height : Nat) : List Screen.Row :=
  match d.showsDiagnostics, d.diagnostics with
  | true, some lines => Screen.diagnostics lines width height
  | _, _ => Screen.activity d.console.state.log width height

/-- The whole screen: the bar, the charts, the details and the log below each other. -/
def screen (d : Dashboard) (width height : Nat) : List Screen.Row :=
  let s := d.console.state
  let half := width / 2
  let charts := height - 24
  let details := 10
  Screen.control s width 4 ++
    Screen.beside (Screen.Chart.bandwidth.panel half charts s.telemetry)
      (Screen.Chart.latency.panel (width - half) charts s.telemetry) ++
    Screen.beside
      (Screen.beside (Screen.results s.latest (width * 35 / 100) details)
        (Screen.sweep s.sweep (width * 45 / 100) details))
      (Screen.servers s.serverStatus (width - width * 35 / 100 - width * 45 / 100) details) ++
    d.log width 10

/-- The rows of a panel. -/
def rows (d : Dashboard) (width height : Nat) : Panel → List Screen.Row :=
  let s := d.console.state
  fun
  | .control => Screen.control s width height
  | .log => d.log width height
  | .results => Screen.results s.latest width height
  | .servers => Screen.servers s.serverStatus width height
  | .sweep => Screen.sweep s.sweep width height
  | .bandwidth => Screen.Chart.bandwidth.panel width height s.telemetry
  | .latency => Screen.Chart.latency.panel width height s.telemetry
  | .all => d.screen width height

/-- The text of a panel, row by row. -/
def render (d : Dashboard) (width height : Nat) (panel : Panel) : List String :=
  (d.rows width height panel).map Screen.Row.text

/-! ## Draining -/

/-- Notifications that come in two ticks do what they do in one. -/
theorem drain_append (label : String) (d : Dashboard) (xs ys : List Inbound) (ended : Bool) :
    (d.drain label xs false).drain label ys ended = d.drain label (xs ++ ys) ended := by
  simp [drain, List.foldl_append]

/-- Once told, the end of the supervisor is not told again. -/
theorem noticeEnd_noticeEnd (label label' : String) (d : Dashboard) :
    (d.noticeEnd label).noticeEnd label' = d.noticeEnd label := by
  unfold noticeEnd
  split
  · simp
  · simp

end Dashboard

end NetGauge
