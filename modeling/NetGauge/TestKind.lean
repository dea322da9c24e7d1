import NetGauge.Mode

set_option autoImplicit false

/-! # Kinds of tests and their parameters

Every kind of test has a table of the parameters that it takes, each required or not, and a tool
of the backend that runs it. The tool decides the server that must listen on the far side and the
port that is used when none is given. -/

namespace NetGauge

/-- A parameter that a test may take. -/
inductive Param where
  | host
  | duration
  | port
  | bandwidth
  | msgSize
  | mps
  | msgSizes
  | count
  deriving DecidableEq, Repr

def Param.name : Param → String
  | .host => "host"
  | .duration => "duration"
  | .port => "port"
  | .bandwidth => "bandwidth"
  | .msgSize => "msg_size"
  | .mps => "mps"
  | .msgSizes => "msg_sizes"
  | .count => "count"

def Param.all : List Param :=
  [.host, .duration, .port, .bandwidth, .msgSize, .mps, .msgSizes, .count]

/-- A parameter in the table of a kind. -/
structure ParamSpec where
  param : Param
  required : Bool
  deriving DecidableEq, Repr

/-- The backend's tool that runs a test. -/
inductive Tool where
  | iperf
  | sockperf
  | ping
  deriving DecidableEq, Repr

namespace Tool

def name : Tool → String
  | .iperf => "iperf"
  | .sockperf => "sockperf"
  | .ping => "ping"

/-- The server that must listen on the far side. -/
def server? : Tool → Option Server
  | .iperf => some .throughput
  | .sockperf => some .latency
  | .ping => none

/-- The port used when a request names none. -/
def defaultPort : Tool → UInt16
  | .iperf => 5201
  | .sockperf => 11111
  | .ping => 0

end Tool

/-- A kind of test. -/
inductive TestKind where
  | throughputTcp
  | throughputUdp
  | latencyPingPong
  | latencyUnderLoad
  | latencySweep
  | icmpPing
  deriving DecidableEq, Repr

namespace TestKind

/-- All kinds in their order on screen. -/
def all : List TestKind :=
  [throughputTcp, throughputUdp, latencyPingPong, latencyUnderLoad, latencySweep, icmpPing]

/-- The name in JSON and in profiles. -/
def name : TestKind → String
  | throughputTcp => "throughput_tcp"
  | throughputUdp => "throughput_udp"
  | latencyPingPong => "latency_ping_pong"
  | latencyUnderLoad => "latency_under_load"
  | latencySweep => "latency_sweep"
  | icmpPing => "icmp_ping"

/-- The name for people. -/
def label : TestKind → String
  | throughputTcp => "TCP Throughput"
  | throughputUdp => "UDP Throughput"
  | latencyPingPong => "Latency Ping-Pong"
  | latencyUnderLoad => "Latency Under Load"
  | latencySweep => "Latency Sweep"
  | icmpPing => "ICMP Ping"

/-- Every parameter that a kind takes, and whether it must have it. -/
def params : TestKind → List ParamSpec
  | throughputTcp => [⟨.host, true⟩, ⟨.duration, true⟩, ⟨.port, true⟩]
  | throughputUdp => [⟨.host, true⟩, ⟨.duration, true⟩, ⟨.port, true⟩, ⟨.bandwidth, false⟩]
  | latencyPingPong => [⟨.host, true⟩, ⟨.duration, true⟩, ⟨.port, true⟩, ⟨.msgSize, true⟩]
  | latencyUnderLoad =>
    [⟨.host, true⟩, ⟨.duration, true⟩, ⟨.port, true⟩, ⟨.msgSize, true⟩, ⟨.mps, true⟩]
  | latencySweep => [⟨.host, true⟩, ⟨.duration, true⟩, ⟨.port, true⟩, ⟨.msgSizes, true⟩]
  | icmpPing => [⟨.host, true⟩, ⟨.count, true⟩]

/-- Whether a kind takes a parameter. -/
def accepts (kind : TestKind) (param : Param) : Bool :=
  kind.params.any (fun spec => spec.param == param)

/-- Whether a kind must have a parameter. -/
def requires (kind : TestKind) (param : Param) : Bool :=
  kind.params.any (fun spec => spec.param == param && spec.required)

def tool : TestKind → Tool
  | throughputTcp | throughputUdp => .iperf
  | latencyPingPong | latencyUnderLoad | latencySweep => .sockperf
  | icmpPing => .ping

/-- The server that must listen on the far side. -/
def server? (kind : TestKind) : Option Server := kind.tool.server?

/-- Whether a kind measures one size after the other. -/
def isSweep : TestKind → Bool
  | latencySweep => true
  | _ => false

def defaultPort (kind : TestKind) : UInt16 := kind.tool.defaultPort

/-- Reads a kind that a person typed: short or long names, dashes or underscores, any case. -/
def parse (text : String) : Except UnknownName TestKind :=
  let folded := String.ofList
    ((Text.foldCase text).toList.map (fun c => if c = '-' then '_' else c))
  if folded == "tcp" || folded == "throughput_tcp" then .ok throughputTcp
  else if folded == "udp" || folded == "throughput_udp" then .ok throughputUdp
  else if folded == "pingpong" || folded == "ping_pong" || folded == "latency_ping_pong" then
    .ok latencyPingPong
  else if folded == "load" || folded == "under_load" || folded == "latency_under_load" then
    .ok latencyUnderLoad
  else if folded == "sweep" || folded == "multisize" || folded == "latency_sweep" then
    .ok latencySweep
  else if folded == "ping" || folded == "icmp" || folded == "icmp_ping" then .ok icmpPing
  else .error (.testKind folded)

def names : Json.Names TestKind where
  all := all.map (fun kind => (kind.name, kind))
  name := name

instance : Json.Form TestKind := names.form

/-- What a kind must have it also takes. -/
theorem accepts_of_requires (kind : TestKind) (param : Param) (h : kind.requires param = true) :
    kind.accepts param = true := by
  revert h; cases kind <;> cases param <;> decide

theorem mem_all (kind : TestKind) : kind ∈ all := by cases kind <;> decide

end TestKind

end NetGauge
