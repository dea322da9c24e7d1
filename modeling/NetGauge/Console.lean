import NetGauge.Dispatch
import NetGauge.Intent

set_option autoImplicit false

/-! # The console

The console owns what the client knows. It applies inbound messages one at a time and turns the
user's intents into commands for a sink. An intent that is rejected, by the session or by the sink,
leaves everything as it was except for one entry in the log. -/

namespace NetGauge

/-- Where commands go. A sink takes a command now or refuses it; it never keeps one for later. -/
class CommandSink (σ : Type) where
  isConnected : σ → Bool
  send : Command → σ → Except DeliveryError Unit × σ

/-- What the client knows, together with its sink. -/
structure Console (σ : Type) where
  state : ClientState
  sink : σ
  reconnectDelayMs : UInt64

namespace Console

variable {σ : Type}

/-- A console for a configuration. A new session is idle, so its mode is free. -/
def new (config : ClientConfig) (sink : σ) : Console σ where
  state := { ClientState.new config.test with session := { mode := config.mode } }
  sink := sink
  reconnectDelayMs := config.reconnectDelayMs

/-- Adds an entry to the log. -/
def record (c : Console σ) (label : String) (level : LogLevel) (message : String) : Console σ :=
  { c with state := c.state.note label level message }

/-- What is put away before a test: the latest figures, and the charts unless a sweep begins. The
    backend will announce the sweep; its number of sizes is kept until then. -/
def prepared (s : ClientState) : ClientState :=
  if s.request.kind.isSweep then
    { s with latest := {}, pendingSweepTotal := some s.request.msgSizes.length }
  else { s with latest := {}, telemetry := s.telemetry.reset }

/-- The test is in progress, unless the session refuses. -/
def begun (s : ClientState) : ClientState :=
  match s.session.begin s.request.kind with
  | .ok session => { s with session := session }
  | .error _ => s

/-- What a command that was sent means for the state. -/
def applySent (s : ClientState) (label : String) : Intent → ClientState
  | .startTest =>
    (begun (prepared s)).note label .info
      ("Starting " ++ s.request.kind.label ++ " to " ++ s.request.target)
  | .stopTest =>
    match s.session.requestStop with
    | .ok (test, session) =>
      { s with session := session }.note label .info ("Stopping " ++ test.label)
    | .error _ => s
  | .startServer server => s.note label .info ("Starting " ++ server.name ++ " server")
  | .stopServer server => s.note label .info ("Stopping " ++ server.name ++ " server")
  | .refreshServerStatus => s
  | .requestStats => s

/-- Hands the command for an intent to the sink. -/
def deliver [CommandSink σ] (c : Console σ) (intent : Intent) : Except Rejection Unit × σ :=
  match intent.encode c.state.request c.state.session (CommandSink.isConnected c.sink) with
  | .error rejection => (.error rejection, c.sink)
  | .ok command =>
    let (sent, sink) := CommandSink.send command c.sink
    (sent.mapError .delivery, sink)

/-- Checks, encodes and sends one intent. -/
def submit [CommandSink σ] (c : Console σ) (intent : Intent) (label : String) :
    Except Rejection Unit × Console σ :=
  let (result, sink) := c.deliver intent
  match result with
  | .ok () => (.ok (), { c with sink := sink, state := applySent c.state label intent })
  | .error rejection =>
    (.error rejection, { c with sink := sink }.record label .error rejection.message)

/-- Applies an event and does what is left to do after it. -/
def handleEvent [CommandSink σ] (c : Console σ) (label : String) (e : Event) : Console σ :=
  let (state, followUp) := c.state.dispatch label e
  let c := { c with state := state }
  match followUp with
  | .nothing => c
  | .refreshStatus => (c.submit .refreshServerStatus label).2
  | .reportError message => c.record label .error message

/-- Applies a message of the backend. One that cannot be understood is ignored, and the log says so. -/
def handlePayload [CommandSink σ] (c : Console σ) (label : String) (text : String) : Console σ :=
  match Event.decode text with
  | .ok e => c.handleEvent label e
  | .error err => c.record label .info ("Ignored message: " ++ err.message)

/-- The transport came up. The session is left alone. -/
def onConnected [CommandSink σ] (c : Console σ) (label : String) : Console σ :=
  let c := { c with state := { c.state with connectivity := .connected } }
  ((c.record label .success "Connected to backend").submit .refreshServerStatus label).2

/-- The transport went away. The session is left alone. -/
def onDisconnected (c : Console σ) (label : String) : Console σ :=
  let c := { c with state := { c.state with connectivity := .disconnected } }
  c.record label .error
    ("Disconnected from backend, reconnecting in " ++ Measure.delay c.reconnectDelayMs)

/-- Changes the mode, if the session lets it be changed. -/
def setMode (c : Console σ) (label : String) (mode : Mode) : Except SessionError Unit × Console σ :=
  match c.state.session.setMode mode with
  | .ok session =>
    (.ok (), { c with state := { c.state with session := session } }.record label .info
      ("Switched to " ++ mode.name ++ " mode"))
  | .error err => (.error err, c.record label .error err.message)

/-- Changes the next test, while none is in progress. -/
def configure (c : Console σ) (label : String) (edit : TestRequest → TestRequest) :
    Except SessionError Unit × Console σ :=
  match c.state.session.checkReconfigure with
  | .ok () => (.ok (), { c with state := { c.state with request := edit c.state.request } })
  | .error err => (.error err, c.record label .error err.message)

/-- Selects the kind of the next test. -/
def selectTest (c : Console σ) (label : String) (kind : TestKind) :
    Except SessionError Unit × Console σ :=
  c.configure label (fun r => { r with kind := kind })

/-- Forgets the run. -/
def reset (c : Console σ) : Console σ := { c with state := c.state.reset }

/-! ## What a command that was sent leaves alone -/

@[simp] theorem session_prepared (s : ClientState) : (prepared s).session = s.session := by
  unfold prepared; split <;> rfl

@[simp] theorem request_prepared (s : ClientState) : (prepared s).request = s.request := by
  unfold prepared; split <;> rfl

@[simp] theorem session_begun (s : ClientState) :
    (begun s).session = (s.session.begin s.request.kind).toOption.getD s.session := by
  unfold begun; cases s.session.begin s.request.kind <;> rfl

@[simp] theorem request_begun (s : ClientState) : (begun s).request = s.request := by
  unfold begun; split <;> rfl

@[simp] theorem sweep_prepared (s : ClientState) : (prepared s).sweep = s.sweep := by
  unfold prepared; split <;> rfl

@[simp] theorem sweep_begun (s : ClientState) : (begun s).sweep = s.sweep := by
  unfold begun; split <;> rfl

@[simp] theorem connectivity_prepared (s : ClientState) :
    (prepared s).connectivity = s.connectivity := by
  unfold prepared; split <;> rfl

@[simp] theorem connectivity_begun (s : ClientState) : (begun s).connectivity = s.connectivity := by
  unfold begun; split <;> rfl

@[simp] theorem telemetry_begun (s : ClientState) : (begun s).telemetry = s.telemetry := by
  unfold begun; split <;> rfl

@[simp] theorem latest_begun (s : ClientState) : (begun s).latest = s.latest := by
  unfold begun; split <;> rfl

@[simp] theorem pendingSweepTotal_begun (s : ClientState) :
    (begun s).pendingSweepTotal = s.pendingSweepTotal := by
  unfold begun; split <;> rfl

theorem request_applySent (s : ClientState) (label : String) (intent : Intent) :
    (applySent s label intent).request = s.request := by
  cases intent with
  | stopTest => simp only [applySent]; split <;> simp
  | _ => simp [applySent]

/-- A sweep begins when the backend announces it, not when its command is sent. -/
theorem sweep_applySent (s : ClientState) (label : String) (intent : Intent) :
    (applySent s label intent).sweep = s.sweep := by
  cases intent with
  | stopTest => simp only [applySent]; split <;> simp
  | _ => simp [applySent]

theorem connectivity_applySent (s : ClientState) (label : String) (intent : Intent) :
    (applySent s label intent).connectivity = s.connectivity := by
  cases intent with
  | stopTest => simp only [applySent]; split <;> simp
  | _ => simp [applySent]

/-- The number of sizes of a sweep is kept when the sweep is asked for. -/
theorem pendingSweepTotal_applySent (s : ClientState) (label : String) (intent : Intent) :
    (applySent s label intent).pendingSweepTotal =
      if intent = .startTest ∧ s.request.kind.isSweep then some s.request.msgSizes.length
      else s.pendingSweepTotal := by
  cases intent with
  | startTest =>
      simp only [applySent, ClientState.pendingSweepTotal_note, pendingSweepTotal_begun, prepared]
      split <;> simp [*]
  | stopTest => simp only [applySent]; split <;> simp
  | _ => simp [applySent]

/-- The latest figures are put away before a test. -/
theorem latest_applySent (s : ClientState) (label : String) (intent : Intent) :
    (applySent s label intent).latest = if intent = .startTest then {} else s.latest := by
  cases intent with
  | startTest =>
      simp only [applySent, ClientState.latest_note, latest_begun, prepared]
      split <;> rfl
  | stopTest => simp only [applySent]; split <;> simp
  | _ => simp [applySent]

/-- The charts are put away before a test, but not before a sweep. -/
theorem telemetry_applySent (s : ClientState) (label : String) (intent : Intent) :
    (applySent s label intent).telemetry =
      if intent = .startTest ∧ s.request.kind.isSweep = false then s.telemetry.reset
      else s.telemetry := by
  cases intent with
  | startTest =>
      simp only [applySent, ClientState.telemetry_note, telemetry_begun, prepared]
      split <;> simp [*]
  | stopTest => simp only [applySent]; split <;> simp
  | _ => simp [applySent]

/-- Only the start and the stop of a test touch the session. -/
theorem session_applySent (s : ClientState) (label : String) (intent : Intent) :
    (applySent s label intent).session =
      match intent with
      | .startTest => (s.session.begin s.request.kind).toOption.getD s.session
      | .stopTest => (s.session.requestStop.toOption.map Prod.snd).getD s.session
      | _ => s.session := by
  cases intent with
  | stopTest =>
      simp only [applySent]
      cases s.session.requestStop <;> simp [Except.toOption]
  | _ => simp [applySent]

end Console

end NetGauge
