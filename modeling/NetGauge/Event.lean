import NetGauge.Json.Record
import NetGauge.Metrics

set_option autoImplicit false

/-! # Events

What the backend tells the client. A message arrives in an envelope with a kind, an optional free
value and an optional text; `Event.ofEnvelope` says what it means. A kind that is not known is an
event of its own, so that a newer backend can be talked to. -/

namespace NetGauge

open Json (Fault Form Member Misfit Record Value)

/-- A message before it is understood. -/
structure Envelope where
  kind : String
  data : Option Value := none
  message : Option String := none

/-- The free value of an envelope is kept with sorted members. -/
def Envelope.record : Record Envelope where
  name := "struct Envelope"
  blank := { kind := "" }
  members := [
    .of .required "type" Envelope.kind (fun r v => { r with kind := v }),
    .sparse "data" Envelope.data (fun r v => { r with data := v.map Value.sorted }),
    .sparse "message" Envelope.message (fun r v => { r with message := v })]

instance : Form Envelope := Envelope.record.form

/-- What a lifecycle message is about. -/
inductive LifecycleSource where
  | iperf
  | sockperf
  | server
  deriving DecidableEq

inductive LifecyclePhase where
  | started
  | stopped
  deriving DecidableEq

/-- A message that has been understood. -/
inductive Event where
  | connected (message : Option String)
  | serverLifecycle (source : LifecycleSource) (phase : LifecyclePhase) (message : Option String)
  | testStarted (message : Option String)
  | testStopped (message : Option String)
  | progress (metrics : Metrics)
  | testComplete (metrics : Metrics)
  | error (message : String)
  | serverStatus (status : ServerStatus)
  | stats (stats : ToolStats)
  | sweepStarted (message : Option String)
  | sweepProgress (progress : SweepProgress)
  | sweepPoint (point : SweepPoint)
  | sweepComplete (results : List SweepPoint)
  | unknown (kind : String)

/-- Why a message cannot be understood. -/
inductive DecodeError where
  /-- The text is no envelope; the characters are kept to tell where. -/
  | malformed (text : List Char) (fault : Fault)
  | missingPayload (kind : String)
  | payload (kind : String) (misfit : Misfit)

/-- The wording of a decoding error. -/
def DecodeError.message : DecodeError → String
  | .malformed text fault => "malformed message: " ++ fault.message text
  | .missingPayload kind => "`" ++ kind ++ "` message carries no data"
  | .payload kind misfit => "invalid `" ++ kind ++ "` payload: " ++ misfit.message

/-! ## Payloads -/

/-- The results that come with the end of a sweep. -/
structure CompletePayload where
  results : List SweepPoint := []

def CompletePayload.record : Record CompletePayload where
  name := "struct CompletePayload"
  blank := {}
  members := [.of .optional "results" CompletePayload.results (fun _ v => ⟨v⟩)]

/-- The text that comes inside an error message. -/
structure ErrorPayload where
  message : Option String := none

def ErrorPayload.record : Record ErrorPayload where
  name := "struct ErrorPayload"
  blank := {}
  members := [.of .requiredInArray "message" ErrorPayload.message (fun _ v => ⟨v⟩)]

namespace Event

variable {α : Type}

/-- Reads a payload by its description. -/
def payload (r : Record α) (kind : String) (data : Value) : Except DecodeError α :=
  (r.ofValue data).mapError (.payload kind)

/-- Reads a payload that must be there. -/
def requiredPayload (r : Record α) (kind : String) : Option Value → Except DecodeError α
  | some data => payload r kind data
  | none => .error (.missingPayload kind)

/-- Reads a payload that may be absent. -/
def optionalPayload (r : Record α) (kind : String) : Option Value → Except DecodeError α
  | some data => payload r kind data
  | none => .ok r.blank

/-- The text of an error: the one inside the payload, else the one of the envelope. -/
def errorText (nested message : Option String) : String :=
  (nested.or message).getD "unknown backend error"

/-- What an envelope means. -/
def ofEnvelope (e : Envelope) : Except DecodeError Event :=
  let { kind, data, message } := e
  if kind = "connected" then .ok (connected message)
  else if kind = "iperf_started" then .ok (serverLifecycle .iperf .started message)
  else if kind = "sockperf_started" then .ok (serverLifecycle .sockperf .started message)
  else if kind = "server_started" then .ok (serverLifecycle .server .started message)
  else if kind = "server_stopped" then .ok (serverLifecycle .server .stopped message)
  else if kind = "ping_started" then .ok (testStarted message)
  else if kind = "iperf_stopped" ∨ kind = "sockperf_stopped" ∨ kind = "ping_stopped" then
    .ok (testStopped message)
  else if kind = "progress" then (optionalPayload Metrics.record kind data).map progress
  else if kind = "test_complete" then (optionalPayload Metrics.record kind data).map testComplete
  else if kind = "error" then
    (optionalPayload ErrorPayload.record kind data).map
      (fun body => error (errorText body.message message))
  else if kind = "server_status" then
    (requiredPayload ServerStatus.record kind data).map serverStatus
  else if kind = "stats" then (optionalPayload ToolStats.record kind data).map stats
  else if kind = "sockperf_multisize_started" then .ok (sweepStarted message)
  else if kind = "multi_size_progress" then
    (requiredPayload SweepProgress.record kind data).map sweepProgress
  else if kind = "multi_size_result" then
    (requiredPayload SweepPoint.record kind data).map sweepPoint
  else if kind = "multi_size_complete" then
    (optionalPayload CompletePayload.record kind data).map (fun body => sweepComplete body.results)
  else .ok (unknown kind)

/-- What a text means. -/
def decode (text : String) : Except DecodeError Event :=
  match Json.parse Envelope text with
  | .ok e => ofEnvelope e
  | .error f => .error (.malformed text.toList f)

/-- Whether an event ends a run on the backend. -/
def isTerminal : Event → Bool
  | testComplete _ | testStopped _ | sweepComplete _ => true
  | _ => false

/-- Whether an event announces a sweep. -/
def announcesSweep : Event → Bool
  | sweepStarted _ => true
  | _ => false

end Event

end NetGauge
