import NetGauge.Json.Form
import NetGauge.Text.Blank

set_option autoImplicit false

/-! # Modes and servers

A client is either the side that generates load or the side that listens for it. In listener mode
it controls the two servers of the backend. -/

namespace NetGauge

/-- A name that stands for nothing. -/
inductive UnknownName where
  | mode (text : String)
  | testKind (text : String)
  deriving DecidableEq

/-- The wording of an unknown name. -/
def UnknownName.message : UnknownName → String
  | .mode text => "unknown mode '" ++ text ++ "', expected generator or listener"
  | .testKind text =>
    "unknown test kind '" ++ text ++ "', expected one of tcp, udp, pingpong, load, sweep, ping"

/-- Which side of a test the client drives. -/
inductive Mode where
  | generator
  | listener
  deriving DecidableEq, Repr

namespace Mode

/-- The other mode. -/
def toggled : Mode → Mode
  | .generator => .listener
  | .listener => .generator

def name : Mode → String
  | .generator => "generator"
  | .listener => "listener"

/-- Reads a mode that a person typed; the case of letters does not matter. -/
def parse (text : String) : Except UnknownName Mode :=
  let folded := Text.foldCase text
  if folded == "generator" || folded == "gen" then .ok .generator
  else if folded == "listener" || folded == "server" then .ok .listener
  else .error (.mode folded)

def names : Json.Names Mode where
  all := [("generator", .generator), ("listener", .listener)]
  name := name

instance : Json.Form Mode := names.form

theorem toggled_toggled (m : Mode) : m.toggled.toggled = m := by cases m <;> rfl

end Mode

/-- A server of the backend that listens for the other side of a test. -/
inductive Server where
  | throughput
  | latency
  deriving DecidableEq, Repr

namespace Server

def name : Server → String
  | .throughput => "iperf3"
  | .latency => "sockperf"

def names : Json.Names Server where
  all := [("iperf3", .throughput), ("sockperf", .latency)]
  name := name

instance : Json.Form Server := names.form

end Server

end NetGauge
