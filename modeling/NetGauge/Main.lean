import NetGauge.CommandLine
import NetGauge.Dashboard
import NetGauge.Headless
import NetGauge.Origin.Endpoint
import Std.Time.DateTime.Timestamp

set_option autoImplicit false

/-! # The program

The outer layer: it reads the clock, files and lines, and leaves every decision to the rest. The
transport is the pair of standard streams: each line that comes in is a message of the backend, and
each command goes out as one line. What the program tells about itself goes to the error stream.
With a dashboard, a line of one character is a key, and the screen is drawn after every line. -/

namespace NetGauge.Main

open Link (Handle)

/-- The wording of a refused command line. -/
def usageMessage : UsageError → String
  | .unknownWord => "unexpected argument"
  | .missingValue => "a value is required"
  | .malformedValue => "invalid value"
  | .repeated => "an argument cannot be used multiple times"
  | .unwantedValue => "unexpected value"
  | .help => "Usage: perf-lab [OPTIONS]"
  | .version => "perf-lab 0.1.0"

/-- The clock on the wall. -/
def now : IO Moment := do
  let t ← Std.Time.Timestamp.now
  return { seconds := t.val.second.val, nanos := t.val.nano.val.toNat }

/-- Reads a file, if it can be read. -/
def readFile (path : String) : IO (Except StorageError String) := do
  try
    return .ok (← IO.FS.readFile path)
  catch _ =>
    return .error .notFound

/-- Sends what waits in the queue. -/
def flush (c : Console Handle) : IO (Console Handle) := do
  let (commands, sink) := c.sink.take
  let out ← IO.getStdout
  for command in commands do
    out.putStrLn command.text
  out.flush
  return { c with sink := sink }

/-- The next line without its end, if there is one. -/
def readLine : IO (Option String) := do
  let line ← (← IO.getStdin).getLine
  return if line.isEmpty then none else some (Text.trimEnd line)

/-- What became of files that were written, in their order. -/
structure Replies where
  left : List (Except StorageError Unit)

instance : FileSystem Replies where
  write replies _ _ :=
    match replies.left with
    | [] => (.ok (), replies)
    | reply :: rest => (reply, ⟨rest⟩)

/-- Writes files until one cannot be written. -/
def writeFiles (files : List ExportFile) : IO Replies := do
  match files with
  | [] => return ⟨[]⟩
  | file :: rest =>
    try
      IO.FS.writeFile file.path file.content
      IO.eprintln ("Wrote " ++ file.path)
      let replies ← writeFiles rest
      return ⟨.ok () :: replies.left⟩
    catch e =>
      return ⟨[.error (.other (toString e))]⟩

/-- Runs until the test has ended. -/
partial def runHeadless (r : Headless.Run Handle) (next : Headless.Arrival) :
    IO (Except Headless.RunError Unit × Headless.Run Handle) := do
  let (verdict, r) := Headless.step r { label := (← now).label, arrival := next }
  let r := { r with console := ← flush r.console }
  match verdict with
  | .ended outcome => return (outcome, r)
  | .goOn =>
    match ← readLine with
    | some text => runHeadless r (.message (.payload text))
    | none => runHeadless r .closed

/-- Runs until the user quits. -/
partial def runDashboard (d : Dashboard) : IO Dashboard := do
  let d := { d with console := ← flush d.console }
  for row in d.render 200 50 .all do
    IO.eprintln row
  match ← readLine with
  | none => return d
  | some text =>
    match text.toList with
    | [key] =>
      let moment ← now
      let targets := d.targets.orTimestamped moment.dateTime
      let replies ← writeFiles (if key = 'e' then d.console.state.exportFiles moment targets else [])
      match (d.press moment replies (.char key)).1 with
      | some d => runDashboard d
      | none => return d
    | _ => runDashboard (d.drain (← now).label [.payload text] false)

/-- A link whose connection is there already. -/
def openLink : Handle := { state := .connected, outbox := some {} }

/-- Carries out a configuration. -/
def run (a : Arguments) (config : ClientConfig) : IO UInt32 := do
  if a.tui then
    let d : Dashboard := { console := .new config openLink, targets := a.targets }
    let d ← runDashboard (d.drain (← now).label [.connected] false)
    let moment ← now
    let replies ← writeFiles (d.console.state.exportFiles moment a.targets)
    match (d.console.state.writeExports moment a.targets replies).1 with
    | .ok _ => return 0
    | .error e =>
      IO.eprintln ("Error: " ++ e.message)
      return 1
  else
    let (outcome, r) ← runHeadless ⟨.new config openLink, false⟩ (.message .connected)
    for line in Headless.summary r.console.state do
      IO.eprintln line
    let moment ← now
    let replies ← writeFiles (r.console.state.exportFiles moment a.targets)
    match (Headless.conclude r.console.state outcome moment a.targets replies).1 with
    | .ok () => return 0
    | .error e =>
      IO.eprintln ("Error: " ++ String.intercalate ": " e.chain)
      return 1

/-- Reads the command line and carries it out. -/
def start (words : List String) : IO UInt32 := do
  match Arguments.parse words with
  | .error e =>
    IO.eprintln (usageMessage e)
    return if e = .help ∨ e = .version then 0 else 2
  | .ok a =>
    let content ← readFile (a.profile.getD "")
    match a.resolve (fun _ => content) with
    | .error e =>
      IO.eprintln ("Error: " ++ e.message)
      return 1
    | .ok config =>
      match Endpoint.ofText config.origin with
      | .error e =>
        IO.eprintln ("Error: " ++ e.message)
        return 1
      | .ok endpoint =>
        IO.eprintln ("perf-lab: " ++ endpoint.text)
        run a config

end NetGauge.Main

/-- The program. -/
def main (words : List String) : IO UInt32 := NetGauge.Main.start words
