import NetGauge.Activity
import NetGauge.Config
import NetGauge.Session
import NetGauge.Sweep
import NetGauge.Telemetry

set_option autoImplicit false

/-! # What the client knows

Everything that one client has learnt, in one value. It is changed by inbound events (`Dispatch`)
and by the console; whoever shows it gets a copy. -/

namespace NetGauge

open Json (Form Value)

inductive Connectivity where
  | disconnected
  | connected
  deriving DecidableEq

def Connectivity.name : Connectivity → String
  | .disconnected => "disconnected"
  | .connected => "connected"

structure ClientState where
  session : Session := {}
  telemetry : Telemetry := .new
  sweep : Sweep := {}
  serverStatus : ServerStatus := {}
  latest : Metrics := {}
  log : ActivityLog := .empty
  connectivity : Connectivity := .disconnected
  request : TestRequest := {}
  /-- How many sizes the sweep has that was asked for and that the backend has not announced yet. -/
  pendingSweepTotal : Option Nat := none

namespace ClientState

/-- A client that has seen nothing yet. -/
def new (request : TestRequest) : ClientState := { request := request }

/-- Forgets the run. Mode, configuration, connectivity, server status and the log stay. -/
def reset (s : ClientState) : ClientState :=
  { s with
    session := s.session.reset
    telemetry := s.telemetry.reset
    sweep := s.sweep.reset
    latest := {}
    pendingSweepTotal := none }

/-- Adds an entry to the log. -/
def note (s : ClientState) (label : String) (level : LogLevel) (message : String) : ClientState :=
  { s with log := s.log.record label level message }

@[simp] theorem session_note (s : ClientState) (label : String) (level : LogLevel)
    (message : String) : (s.note label level message).session = s.session := by
  simp only [note]

@[simp] theorem request_note (s : ClientState) (label : String) (level : LogLevel)
    (message : String) : (s.note label level message).request = s.request := by
  simp only [note]

@[simp] theorem sweep_note (s : ClientState) (label : String) (level : LogLevel)
    (message : String) : (s.note label level message).sweep = s.sweep := by
  simp only [note]

@[simp] theorem connectivity_note (s : ClientState) (label : String) (level : LogLevel)
    (message : String) : (s.note label level message).connectivity = s.connectivity := by
  simp only [note]

@[simp] theorem telemetry_note (s : ClientState) (label : String) (level : LogLevel)
    (message : String) : (s.note label level message).telemetry = s.telemetry := by
  simp only [note]

@[simp] theorem latest_note (s : ClientState) (label : String) (level : LogLevel)
    (message : String) : (s.note label level message).latest = s.latest := by
  simp only [note]

@[simp] theorem pendingSweepTotal_note (s : ClientState) (label : String) (level : LogLevel)
    (message : String) :
    (s.note label level message).pendingSweepTotal = s.pendingSweepTotal := by
  simp only [note]

/-- The state as it is shown to others; what is pending stays inside. -/
def toValue (s : ClientState) : Value :=
  .object [
    ("session", s.session.toValue),
    ("telemetry", s.telemetry.toValue),
    ("sweep", s.sweep.toValue),
    ("server_status", Form.toValue s.serverStatus),
    ("latest", Form.toValue s.latest),
    ("log", s.log.toValue),
    ("connectivity", .string s.connectivity.name),
    ("request", Form.toValue s.request)]

end ClientState

end NetGauge
