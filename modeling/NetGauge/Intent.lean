import NetGauge.Command
import NetGauge.Config
import NetGauge.Session

set_option autoImplicit false

/-! # From intents to commands

What the user asks for becomes exactly one command, or is rejected without any effect. A start
command carries only the parameters that the kind of the test takes. -/

namespace NetGauge

/-- What the user asks for. -/
inductive Intent where
  | startTest
  | stopTest
  | startServer (server : Server)
  | stopServer (server : Server)
  | refreshServerStatus
  | requestStats
  deriving DecidableEq

/-- Why a command could not be handed over. -/
inductive DeliveryError where
  | notConnected
  | closed
  /-- The command has no text; the writer of texts said why. -/
  | encode (message : String)
  deriving DecidableEq

def DeliveryError.message : DeliveryError → String
  | .notConnected => "not connected"
  | .closed => "connection closed before the command could be written"
  | .encode message => "failed to encode command: " ++ message

/-- Why nothing was sent. -/
inductive Rejection where
  | session (error : SessionError)
  | missingParam (kind : TestKind) (param : Param)
  | emptySweep
  | notConnected
  | delivery (error : DeliveryError)
  deriving DecidableEq

/-- The wording of a rejection. -/
def Rejection.message : Rejection → String
  | .session error => error.message
  | .missingParam kind param =>
    "missing required parameter `" ++ param.name ++ "` for " ++ kind.label
  | .emptySweep => "latency sweep needs at least one payload size"
  | .notConnected => "not connected to backend"
  | .delivery error => "delivery failed: " ++ error.message

namespace TestRequest

/-- The first parameter that the kind must have and that is empty or zero. -/
def missing? (r : TestRequest) : Option Param :=
  if Text.trim r.host = "" then some .host
  else if r.kind.requires .duration ∧ r.duration = 0 then some .duration
  else if r.kind.requires .msgSize ∧ r.msgSize = 0 then some .msgSize
  else if r.kind.requires .mps ∧ r.mps = 0 then some .mps
  else if r.kind.requires .count ∧ r.count = 0 then some .count
  else none

/-- The bandwidth limit, where the kind takes one and it is not blank. -/
def bandwidthLimit (r : TestRequest) : Option String :=
  if r.kind.accepts .bandwidth then
    (r.bandwidth.map Text.trim).filter (fun b => b ≠ "")
  else none

/-- The start command of a request that misses nothing. -/
def command (r : TestRequest) : Except Rejection Command :=
  let host := Text.trim r.host
  let port := r.effectivePort
  match r.kind with
  | .throughputTcp => .ok (.startThroughput ⟨host, r.duration, port, false, r.bandwidthLimit⟩)
  | .throughputUdp => .ok (.startThroughput ⟨host, r.duration, port, true, r.bandwidthLimit⟩)
  | .latencyPingPong => .ok (.startPingPong ⟨host, r.duration, port, r.msgSize⟩)
  | .latencyUnderLoad => .ok (.startLoad ⟨host, r.duration, port, r.msgSize, r.mps⟩)
  | .latencySweep =>
    if r.msgSizes.isEmpty then .error .emptySweep
    else .ok (.startSweep ⟨host, r.duration, port, r.msgSizes⟩)
  | .icmpPing => .ok (.startPing ⟨host, r.count⟩)

/-- The start command of a request. -/
def startCommand (r : TestRequest) : Except Rejection Command :=
  match r.missing? with
  | some param => .error (.missingParam r.kind param)
  | none => r.command

end TestRequest

namespace Intent

/-- The command that the session allows. -/
def allowed (intent : Intent) (request : TestRequest) (session : Session) :
    Except Rejection Command :=
  match intent with
  | .startTest => do
    session.checkCanStart.mapError .session
    request.startCommand
  | .stopTest => do
    let test ← session.stopTarget.mapError .session
    return test.stopCommand
  | .startServer server => do
    session.checkListener.mapError .session
    return .startServer server
  | .stopServer server => do
    session.checkListener.mapError .session
    return .stopServer server
  | .refreshServerStatus => .ok .getServerStatus
  | .requestStats => .ok .getStats

/-- The command for an intent. Being disconnected is the last reason to reject. -/
def encode (intent : Intent) (request : TestRequest) (session : Session) (connected : Bool) :
    Except Rejection Command := do
  let command ← intent.allowed request session
  if connected then return command else throw .notConnected

/-! ## What the session lets through -/

section

variable (request : TestRequest) (session : Session) (command : Command)

/-- A check that is told as a rejection lets through what the check lets through. -/
theorem mapError_bind_eq_ok_iff {α : Type} (check : Except SessionError α)
    (next : α → Except Rejection Command) :
    (check.mapError Rejection.session >>= next) = .ok command ↔
      ∃ a, check = .ok a ∧ next a = .ok command := by
  cases check with
  | error e =>
      constructor
      · nofun
      · rintro ⟨_, hok, -⟩
        cases hok
  | ok a =>
      constructor
      · intro hnext
        exact ⟨a, rfl, hnext⟩
      · rintro ⟨_, hok, hnext⟩
        cases hok
        exact hnext

theorem allowed_startTest_eq_ok_iff :
    allowed .startTest request session = .ok command ↔
      session.checkCanStart = .ok () ∧ request.startCommand = .ok command :=
  (mapError_bind_eq_ok_iff command _ _).trans
    ⟨fun ⟨_, hcheck, hstart⟩ => ⟨hcheck, hstart⟩, fun ⟨hcheck, hstart⟩ => ⟨(), hcheck, hstart⟩⟩

theorem allowed_stopTest_eq_ok_iff :
    allowed .stopTest request session = .ok command ↔
      ∃ test, session.stopTarget = .ok test ∧ test.stopCommand = command := by
  simp [allowed, mapError_bind_eq_ok_iff, pure, Except.pure]

theorem allowed_startServer_eq_ok_iff (server : Server) :
    allowed (.startServer server) request session = .ok command ↔
      session.checkListener = .ok () ∧ .startServer server = command :=
  (mapError_bind_eq_ok_iff command _ _).trans
    ⟨fun ⟨_, hcheck, hsame⟩ => ⟨hcheck, Except.ok.inj hsame⟩,
      fun ⟨hcheck, hsame⟩ => ⟨(), hcheck, congrArg _ hsame⟩⟩

theorem allowed_stopServer_eq_ok_iff (server : Server) :
    allowed (.stopServer server) request session = .ok command ↔
      session.checkListener = .ok () ∧ .stopServer server = command :=
  (mapError_bind_eq_ok_iff command _ _).trans
    ⟨fun ⟨_, hcheck, hsame⟩ => ⟨hcheck, Except.ok.inj hsame⟩,
      fun ⟨hcheck, hsame⟩ => ⟨(), hcheck, congrArg _ hsame⟩⟩

end

/-- What is allowed goes out, unless there is no connection. -/
theorem encode_of_allowed {intent : Intent} {request : TestRequest} {session : Session}
    {command : Command} (h : intent.allowed request session = .ok command) (connected : Bool) :
    intent.encode request session connected =
      if connected then .ok command else .error .notConnected := by
  unfold encode
  rw [h]
  cases connected <;> rfl

theorem encode_eq_ok_iff (intent : Intent) (request : TestRequest) (session : Session)
    (connected : Bool) (command : Command) :
    intent.encode request session connected = .ok command ↔
      intent.allowed request session = .ok command ∧ connected = true := by
  unfold encode
  cases intent.allowed request session with
  | error r => simp [bind, Except.bind]
  | ok other => cases connected <;> simp [bind, Except.bind, pure, Except.pure, throw, throwThe,
      MonadExceptOf.throw]

end Intent

end NetGauge
