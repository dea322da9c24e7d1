import NetGauge.Json.Record
import NetGauge.TestKind

set_option autoImplicit false

/-! # Commands

What the client tells the backend. In JSON a command is an object with its name under `type` and,
where it has any, its parameters under `data`. A reader takes the two in either order, and also as
the two elements of an array; parameters that come before the name are kept as a value until the
name says what they are. -/

namespace NetGauge

open Json (Member Record Fault Misfit Halt Value)

/-! ## Parameters -/

/-- A throughput measurement. -/
structure ThroughputRun where
  host : String
  duration : UInt32
  port : UInt16
  udp : Bool
  bandwidth : Option String
  deriving DecidableEq

/-- A latency measurement with one message at a time. -/
structure PingPongRun where
  host : String
  duration : UInt32
  port : UInt16
  msgSize : UInt32
  deriving DecidableEq

/-- A latency measurement at a fixed rate of messages. -/
structure LoadRun where
  host : String
  duration : UInt32
  port : UInt16
  msgSize : UInt32
  mps : UInt32
  deriving DecidableEq

/-- Latency measurements over several message sizes. -/
structure SweepRun where
  host : String
  duration : UInt32
  port : UInt16
  msgSizes : List UInt32
  deriving DecidableEq

/-- A series of echo requests. -/
structure PingRun where
  host : String
  count : UInt32
  deriving DecidableEq

def ThroughputRun.record : Record ThroughputRun where
  name := "struct variant Command::StartIperfClient"
  blank := ⟨"", 0, 0, false, none⟩
  positional := false
  members := [
    .of .required "host" ThroughputRun.host (fun r v => { r with host := v }),
    .of .required "duration" ThroughputRun.duration (fun r v => { r with duration := v }),
    .of .required "port" ThroughputRun.port (fun r v => { r with port := v }),
    .of .required "udp" ThroughputRun.udp (fun r v => { r with udp := v }),
    .sparse "bandwidth" ThroughputRun.bandwidth (fun r v => { r with bandwidth := v })]

def PingPongRun.record : Record PingPongRun where
  name := "struct variant Command::StartSockperfPingpong"
  blank := ⟨"", 0, 0, 0⟩
  positional := false
  members := [
    .of .required "host" PingPongRun.host (fun r v => { r with host := v }),
    .of .required "duration" PingPongRun.duration (fun r v => { r with duration := v }),
    .of .required "port" PingPongRun.port (fun r v => { r with port := v }),
    .of .required "msg_size" PingPongRun.msgSize (fun r v => { r with msgSize := v })]

def LoadRun.record : Record LoadRun where
  name := "struct variant Command::StartSockperfLoad"
  blank := ⟨"", 0, 0, 0, 0⟩
  positional := false
  members := [
    .of .required "host" LoadRun.host (fun r v => { r with host := v }),
    .of .required "duration" LoadRun.duration (fun r v => { r with duration := v }),
    .of .required "port" LoadRun.port (fun r v => { r with port := v }),
    .of .required "msg_size" LoadRun.msgSize (fun r v => { r with msgSize := v }),
    .of .required "mps" LoadRun.mps (fun r v => { r with mps := v })]

def SweepRun.record : Record SweepRun where
  name := "struct variant Command::StartSockperfMultisize"
  blank := ⟨"", 0, 0, []⟩
  positional := false
  members := [
    .of .required "host" SweepRun.host (fun r v => { r with host := v }),
    .of .required "duration" SweepRun.duration (fun r v => { r with duration := v }),
    .of .required "port" SweepRun.port (fun r v => { r with port := v }),
    .of .required "msg_sizes" SweepRun.msgSizes (fun r v => { r with msgSizes := v })]

def PingRun.record : Record PingRun where
  name := "struct variant Command::StartPing"
  blank := ⟨"", 0⟩
  positional := false
  members := [
    .of .required "host" PingRun.host (fun r v => { r with host := v }),
    .of .required "count" PingRun.count (fun r v => { r with count := v })]

/-- The parameters of a server command; `name` is what diagnostics call it. -/
def Server.record (name : String) : Record Server where
  name := name
  blank := .throughput
  positional := false
  members := [.of .required "server" id (fun _ v => v)]

/-! ## Commands and their names -/

/-- A command to the backend. -/
inductive Command where
  | startServer (server : Server)
  | stopServer (server : Server)
  | getServerStatus
  | getStats
  | startThroughput (run : ThroughputRun)
  | startPingPong (run : PingPongRun)
  | startLoad (run : LoadRun)
  | startSweep (run : SweepRun)
  | startPing (run : PingRun)
  | stopIperf
  | stopSockperf
  | stopPing
  deriving DecidableEq

/-- The name of a command without its parameters. -/
inductive CommandName where
  | startServer
  | stopServer
  | getServerStatus
  | getStats
  | startThroughput
  | startPingPong
  | startLoad
  | startSweep
  | startPing
  | stopIperf
  | stopSockperf
  | stopPing
  deriving DecidableEq

namespace CommandName

/-- The name in JSON. -/
def text : CommandName → String
  | startServer => "start_server"
  | stopServer => "stop_server"
  | getServerStatus => "get_server_status"
  | getStats => "get_stats"
  | startThroughput => "start_iperf_client"
  | startPingPong => "start_sockperf_pingpong"
  | startLoad => "start_sockperf_load"
  | startSweep => "start_sockperf_multisize"
  | startPing => "start_ping"
  | stopIperf => "stop_iperf"
  | stopSockperf => "stop_sockperf"
  | stopPing => "stop_ping"

def all : List CommandName :=
  [startServer, stopServer, getServerStatus, getStats, startThroughput, startPingPong, startLoad,
    startSweep, startPing, stopIperf, stopSockperf, stopPing]

def names : Json.Names CommandName where
  all := all.map (fun n => (n.text, n))
  name := text

/-- How the parameters of a command are read: none at all, with the command and what diagnostics
    call it, or those of a record. -/
inductive Body where
  | none (name : String) (command : Command)
  | record {σ : Type} (r : Record σ) (make : σ → Command)

/-- The parameters that go with a name. -/
def body : CommandName → Body
  | startServer => .record (Server.record "struct variant Command::StartServer") .startServer
  | stopServer => .record (Server.record "struct variant Command::StopServer") .stopServer
  | getServerStatus => .none "unit variant Command::GetServerStatus" .getServerStatus
  | getStats => .none "unit variant Command::GetStats" .getStats
  | startThroughput => .record ThroughputRun.record .startThroughput
  | startPingPong => .record PingPongRun.record .startPingPong
  | startLoad => .record LoadRun.record .startLoad
  | startSweep => .record SweepRun.record .startSweep
  | startPing => .record PingRun.record .startPing
  | stopIperf => .none "unit variant Command::StopIperf" .stopIperf
  | stopSockperf => .none "unit variant Command::StopSockperf" .stopSockperf
  | stopPing => .none "unit variant Command::StopPing" .stopPing

end CommandName

namespace Command

/-- The name without its parameters. -/
def tag : Command → CommandName
  | startServer _ => .startServer
  | stopServer _ => .stopServer
  | getServerStatus => .getServerStatus
  | getStats => .getStats
  | startThroughput _ => .startThroughput
  | startPingPong _ => .startPingPong
  | startLoad _ => .startLoad
  | startSweep _ => .startSweep
  | startPing _ => .startPing
  | stopIperf => .stopIperf
  | stopSockperf => .stopSockperf
  | stopPing => .stopPing

/-- The name on the wire, as diagnostics have it. -/
def name : Command → String
  | startServer _ => "start_server"
  | stopServer _ => "stop_server"
  | getServerStatus => "get_server_status"
  | getStats => "get_stats"
  | startThroughput _ => "start_iperf_client"
  | startPingPong _ => "start_sockperf_pingpong"
  | startLoad _ => "start_sockperf_load"
  | startSweep _ => "start_sockperf_multisize"
  | startPing _ => "start_ping"
  | stopIperf => "stop_iperf"
  | stopSockperf => "stop_sockperf"
  | stopPing => "stop_ping"

/-- The parameters under `data`, where a command has any. -/
def data? : Command → Option Value
  | startServer server => some ((Server.record "").toValue server)
  | stopServer server => some ((Server.record "").toValue server)
  | startThroughput run => some (ThroughputRun.record.toValue run)
  | startPingPong run => some (PingPongRun.record.toValue run)
  | startLoad run => some (LoadRun.record.toValue run)
  | startSweep run => some (SweepRun.record.toValue run)
  | startPing run => some (PingRun.record.toValue run)
  | getServerStatus | getStats | stopIperf | stopSockperf | stopPing => none

/-- The members of the object that a command is written as. -/
def members (c : Command) : List (String × Value) :=
  ("type", .string c.tag.text) :: c.data?.toList.map (fun data => ("data", data))

/-- A command as a JSON object. -/
def toValue (c : Command) : Value := .object c.members

/-- The command that stops a running test of a tool. -/
def stop : Tool → Command
  | .iperf => stopIperf
  | .sockperf => stopSockperf
  | .ping => stopPing

/-- Whether a command starts a test. -/
def startsTest : Command → Bool
  | startThroughput _ | startPingPong _ | startLoad _ | startSweep _ | startPing _ => true
  | _ => false

/-- The sizes of the sweep that a command starts, if it starts one. -/
def sizes? : Command → Option (List UInt32)
  | startSweep run => some run.msgSizes
  | _ => none

/-- Whether a command stops a test. -/
def stopsTest : Command → Bool
  | stopIperf | stopSockperf | stopPing => true
  | _ => false

/-- Whether a command starts or stops a server. -/
def controlsServer : Command → Bool
  | startServer _ | stopServer _ => true
  | _ => false

/-! ## Reading -/

/-- What diagnostics call a command. -/
def expected : String := "adjacently tagged enum Command"

/-- Refuses anything but null as the parameters of a command that has none. An array or object is
    entered before it is refused. -/
def noneOfText (name : String) (levels : Nat) : List Char → Except Fault (Unit × List Char) :=
  Json.atValue (fun c rest =>
    if c = 'n' then do return ((), ← Json.word ['u', 'l', 'l'] rest)
    else if c = '[' || c = '{' then
      if levels ≤ 1 then .error (.atNext .tooDeep (c :: rest))
      else if c = '[' then .error ((Halt.misfit (.type .sequence name) rest).place Json.leaveList)
      else .error ((Halt.misfit (.type .map name) rest).place Json.leaveObject)
    else .error (Json.wrongType name (c :: rest)))

/-- Reads the parameters that go with a name. -/
def bodyOfText (levels : Nat) (text : List Char) :
    CommandName.Body → Except Fault (Command × List Char)
  | .none name command => do
    let ((), rest) ← noneOfText name levels text
    return (command, rest)
  | .record r make => do
    let (a, rest) ← r.ofText levels text
    return (make a, rest)

/-- Reads parameters that came before their name. -/
def bodyOfValue (v : Value) : CommandName.Body → Except Misfit Command
  | .none name command =>
    match v with
    | .null => .ok command
    | v => .error (.type (.ofValue v) name)
  | .record r make => (r.ofValue v).map make

/-- The two members of a command. -/
inductive Key where
  | type
  | data
  deriving DecidableEq

/-- Moves to the next of the two members, passing over all others, or to the closing brace. -/
def nextMember : Nat → Bool → List Char → Except Fault (Option Key × List Char)
  | 0, _, text => .error (.before .objectUnfinished text)
  | fuel + 1, first, text => do
    match ← Json.nextKey first text with
    | (none, rest) => return (none, rest)
    | (some name, rest) =>
      if name == "type" then return (some .type, rest)
      else if name == "data" then return (some .data, rest)
      else nextMember fuel false (← Json.skipValue (← Json.afterKey rest))

/-- Moves to the next member from wherever a part ends. -/
def memberAfter (first : Bool) (text : List Char) : Except Halt (Option Key × List Char) :=
  Halt.lift (nextMember (text.length + 1) first text)

/-- Refuses to see a member again. -/
def finish (c : Command) (text : List Char) : Except Halt (Command × List Char) := do
  match ← memberAfter false text with
  | (none, rest) => return (c, rest)
  | (some .type, rest) => .error (.misfit (.duplicateField "type") rest)
  | (some .data, rest) => .error (.misfit (.duplicateField "data") rest)

/-- Reads the name of a command. -/
def nameOfText (levels : Nat) (text : List Char) : Except Halt (CommandName × List Char) :=
  Halt.lift (do CommandName.names.ofText levels (← Json.afterKey text))

/-- Reads the members of a command up to the closing brace. -/
def membersOfText (levels : Nat) (text : List Char) : Except Halt (Command × List Char) := do
  match ← memberAfter true text with
  | (none, rest) => .error (.misfit (.missingField "type") rest)
  | (some .type, rest) =>
    let (name, rest) ← nameOfText levels rest
    match ← memberAfter false rest with
    | (some .type, rest) => .error (.misfit (.duplicateField "type") rest)
    | (some .data, rest) =>
      let (c, rest) ← Halt.lift (do bodyOfText levels (← Json.afterKey rest) name.body)
      finish c rest
    | (none, rest) =>
      match name.body with
      | .none _ command => return (command, rest)
      | .record _ _ => .error (.misfit (.missingField "data") rest)
  | (some .data, rest) =>
    let (v, rest) ← Halt.lift (do Json.valueFrom levels (← Json.afterKey rest))
    match ← memberAfter false rest with
    | (some .type, rest) =>
      let (name, rest) ← nameOfText levels rest
      match bodyOfValue v name.body with
      | .ok c => finish c rest
      | .error m => .error (.misfit m rest)
    | (some .data, rest) => .error (.misfit (.duplicateField "data") rest)
    | (none, rest) => .error (.misfit (.missingField "type") rest)

/-- Reads the two elements of a command written as an array, where the name can only be a string. -/
def elementsOfText (levels : Nat) (text : List Char) : Except Halt (Command × List Char) := do
  let (more, rest) ← Halt.lift (Json.nextElement true text)
  if more then
    let (name, rest) ← Halt.lift (CommandName.names.identifierOfText rest)
    let (more, rest) ← Halt.lift (Json.nextElement false rest)
    if more then Halt.lift (bodyOfText levels rest name.body)
    else .error (.misfit (.length 1 expected) rest)
  else .error (.misfit (.length 0 expected) rest)

/-- Reads a command from a text. -/
def ofText (levels : Nat) : List Char → Except Fault (Command × List Char) :=
  Json.atValue (fun c rest =>
    if c = '{' then
      if levels ≤ 1 then .error (.atNext .tooDeep (c :: rest))
      else match membersOfText (levels - 1) rest with
        | .ok (command, rest) => do return (command, ← Json.endObject rest)
        | .error h => .error (h.place Json.leaveObject)
    else if c = '[' then
      if levels ≤ 1 then .error (.atNext .tooDeep (c :: rest))
      else match elementsOfText (levels - 1) rest with
        | .ok (command, rest) => do return (command, ← Json.endList rest)
        | .error h => .error (h.place Json.leaveList)
    else .error (Json.wrongType expected (c :: rest)))

/-- The command that a text holds. -/
def parse (text : String) : Except Fault Command := Json.whole ofText text

/-- The text of a command. -/
def text (c : Command) : String := c.toValue.compact

end Command

/-- The command that stops a running test of a kind. -/
def TestKind.stopCommand (kind : TestKind) : Command := .stop kind.tool

end NetGauge
