import NetGauge.Export
import NetGauge.Link.Supervisor

set_option autoImplicit false

/-! # Runs without a screen

A run launches its test, or its server, as soon as the link is up for the first time. A generator
run ends with its test or with an error of the backend, a listener run only when it is interrupted.
However it ends, the exports that were asked for are written. -/

namespace NetGauge.Headless

open Link (Inbound)

/-- Why a run fails. -/
inductive RunError where
  | linkStopped
  | backend (message : String)
  | noServer (kind : TestKind)
  | startTest (kind : TestKind) (rejection : Rejection)
  | startServer (server : Server) (rejection : Rejection)
  | exporting (error : ExportError)

/-- The wordings of a failed delivery and of what lies behind it. -/
def deliveryChain (e : DeliveryError) : List String :=
  e.message :: match e with
    | .encode message => [message]
    | _ => []

/-- The wordings of a rejection and of what lies behind it. -/
def rejectionChain (r : Rejection) : List String :=
  r.message :: match r with
    | .delivery error => deliveryChain error
    | _ => []

/-- The wordings of a failure and of its causes, outermost first. -/
def RunError.chain : RunError → List String
  | .linkStopped => ["connection supervisor stopped unexpectedly"]
  | .backend message => ["backend reported an error: " ++ message]
  | .noServer kind => [kind.label ++ " does not need a listening server"]
  | .startTest kind rejection => ("Failed to start " ++ kind.label) :: rejectionChain rejection
  | .startServer server rejection =>
    ("Failed to start the " ++ server.name ++ " server") :: rejectionChain rejection
  | .exporting error => error.chain

def RunError.message (e : RunError) : String := e.chain.headD ""

/-- What may come next in a run. -/
inductive Arrival where
  | message (m : Inbound)
  /-- The user wants to stop. -/
  | interrupt
  /-- No more messages will come. -/
  | closed

/-- An arrival and the tick in which it comes. The sink is shared with whoever keeps the link: it may
    have changed since the last arrival, and it may change once more before a run is launched. -/
structure Turn (σ : Type) where
  label : String
  arrival : Arrival
  meanwhile : σ → σ := id
  amid : σ → σ := id

/-- A run in progress. -/
structure Run (σ : Type) where
  console : Console σ
  /-- Whether the test or server has been launched. -/
  launched : Bool := false

/-- The sink changes by itself. -/
def Run.drift {σ : Type} (r : Run σ) (change : σ → σ) : Run σ :=
  { r with console := { r.console with sink := change r.console.sink } }

/-- Whether a run goes on. -/
inductive Verdict where
  | goOn
  | ended (outcome : Except RunError Unit)

variable {σ : Type} [CommandSink σ]

/-- Starts the test of a generator, or the server of a listener. -/
def launch (c : Console σ) (label : String) : Except RunError Unit × Console σ :=
  let kind := c.state.request.kind
  match c.state.session.mode with
  | .generator =>
    let (result, c) := c.submit .startTest label
    (result.mapError (.startTest kind), c)
  | .listener =>
    match kind.server? with
    | none => (.error (.noServer kind), c)
    | some server =>
      let (result, c) := c.submit (.startServer server) label
      (result.mapError (.startServer server), c)

/-- Launches a run that has not been launched. -/
def Run.ensureLaunched (r : Run σ) (label : String) : Verdict × Run σ :=
  if r.launched then (.goOn, r)
  else
    match launch r.console label with
    | (.ok (), c) => (.goOn, ⟨c, true⟩)
    | (.error e, c) => (.ended (.error e), ⟨c, false⟩)

/-- The link came up: the console is told, and the run is launched if it has not been. -/
def onConnected (r : Run σ) (label : String) (amid : σ → σ) : Verdict × Run σ :=
  ({ r with console := r.console.onConnected label }.drift amid).ensureLaunched label

/-- Whether a launched generator run is over after an event. -/
def verdict (r : Run σ) (e : Event) : Verdict :=
  if r.launched ∧ r.console.state.session.mode = .generator then
    match e with
    | .error message => .ended (.error (.backend message))
    | _ => if r.console.state.session.isIdle then .ended (.ok ()) else .goOn
  else .goOn

/-- A message of the backend. One that cannot be understood never ends a run. -/
def onPayload (r : Run σ) (label text : String) : Verdict × Run σ :=
  match Event.decode text with
  | .error _ => (.goOn, { r with console := r.console.handlePayload label text })
  | .ok e =>
    let r := { r with console := r.console.handleEvent label e }
    (verdict r e, r)

/-- The user wants to stop: a test in progress is told to stop. -/
def onInterrupt (r : Run σ) (label : String) : Verdict × Run σ :=
  if r.launched ∧ ¬r.console.state.session.isIdle then
    (.ended (.ok ()), { r with console := (r.console.submit .stopTest label).2 })
  else (.ended (.ok ()), r)

/-- One arrival. -/
def step (r : Run σ) (t : Turn σ) : Verdict × Run σ :=
  let r := r.drift t.meanwhile
  match t.arrival with
  | .message .connected => onConnected r t.label t.amid
  | .message .disconnected =>
    (.goOn, { r with console := r.console.onDisconnected t.label })
  | .message (.payload text) => onPayload r t.label text
  | .interrupt => onInterrupt r t.label
  | .closed => (.ended (.error .linkStopped), r)

/-- Arrivals one after the other, as long as the run goes on. -/
def advanceThrough (r : Run σ) : List (Turn σ) → Verdict × Run σ
  | [] => (.goOn, r)
  | t :: rest =>
    match step r t with
    | (.goOn, r) => advanceThrough r rest
    | (.ended outcome, r) => (.ended outcome, r)

/-- Arrivals until the run ends; after the last of them the channel is closed. -/
def driveThrough (r : Run σ) (turns : List (Turn σ)) : Except RunError Unit × Run σ :=
  match advanceThrough r turns with
  | (.ended outcome, r) => (outcome, r)
  | (.goOn, r) => (.error .linkStopped, r)

/-- Arrivals that come in one tick, while the sink is left alone. -/
def Turn.within (label : String) (arrivals : List Arrival) : List (Turn σ) :=
  arrivals.map (fun a => { label := label, arrival := a })

/-- Arrivals in one tick, as long as the run goes on. -/
def advance (label : String) (r : Run σ) (arrivals : List Arrival) : Verdict × Run σ :=
  advanceThrough r (Turn.within label arrivals)

/-- Arrivals in one tick until the run ends. -/
def drive (label : String) (r : Run σ) (arrivals : List Arrival) : Except RunError Unit × Run σ :=
  driveThrough r (Turn.within label arrivals)

section

variable {r s : Run σ} {t : Turn σ} {xs : List (Turn σ)} {outcome : Except RunError Unit}

theorem advanceThrough_of_goOn (h : step r t = (.goOn, s)) (rest : List (Turn σ)) :
    advanceThrough r (t :: rest) = advanceThrough s rest := by
  simp only [advanceThrough, h]

theorem driveThrough_of_goOn (h : step r t = (.goOn, s)) (rest : List (Turn σ)) :
    driveThrough r (t :: rest) = driveThrough s rest := by
  simp only [driveThrough, advanceThrough, h]

/-- Once a run has ended, what is queued makes no difference. -/
theorem driveThrough_of_ended (h : step r t = (.ended outcome, s)) (rest : List (Turn σ)) :
    driveThrough r (t :: rest) = (outcome, s) := by
  simp only [driveThrough, advanceThrough, h]

theorem driveThrough_append (h : advanceThrough r xs = (.goOn, s)) (ys : List (Turn σ)) :
    driveThrough r (xs ++ ys) = driveThrough s ys := by
  induction xs generalizing r with
  | nil => cases h; rfl
  | cons x rest ih =>
      rcases hstep : step r x with ⟨_ | outcome, u⟩
      · rw [advanceThrough_of_goOn hstep] at h
        exact (driveThrough_of_goOn hstep _).trans (ih h)
      · simp only [advanceThrough, hstep] at h
        cases h

end

/-- What is told at the end of a run. -/
def summary (s : ClientState) : List String :=
  let figures := [
    s.latest.bandwidthMbps.map (fun x => "Bandwidth:   " ++ Measure.bandwidth x),
    s.latest.latencyAvgUs.map (fun x => "Latency avg: " ++ Measure.latency x),
    s.latest.latencyP99Us.map (fun x => "Latency p99: " ++ Measure.latency x),
    s.latest.jitterMs.map (fun x => "Jitter:      " ++ Measure.jitter x),
    s.latest.lossPercent.map (fun x => "Loss:        " ++ Measure.percent x)].filterMap id
  let size (p : SweepPoint) : String :=
    let digits := Nat.toDigits 10 p.payloadSize.toNat
    String.ofList (List.replicate (6 - digits.length) ' ' ++ digits)
  figures ++ s.sweep.results.map (fun p =>
    size p ++ " bytes  avg " ++ Measure.latency p.avg ++ "  p99 " ++ Measure.latency p.p99)

section

variable {δ : Type} [FileSystem δ]

/-- Writes the exports at the end of a run. A failure to write hides how the run ended. -/
def conclude (s : ClientState) (outcome : Except RunError Unit) (now : Moment)
    (targets : ExportTargets) (disk : δ) : Except RunError Unit × δ :=
  match s.writeExports now targets disk with
  | (.error e, disk) => (.error (.exporting e), disk)
  | (.ok _, disk) => (outcome, disk)

/-- A whole run: its outcome, the console at its end, and the files. -/
def run (config : ClientConfig) (sink : σ) (arrivals : List Arrival) (now : Moment)
    (targets : ExportTargets) (disk : δ) : Except RunError Unit × Console σ × δ :=
  let (outcome, r) := drive now.label ⟨.new config sink, false⟩ arrivals
  let (outcome, disk) := conclude r.console.state outcome now targets disk
  (outcome, r.console, disk)

/-- A whole run whose arrivals come in ticks of their own, ending at the moment `now`. -/
def runThrough (config : ClientConfig) (sink : σ) (turns : List (Turn σ)) (now : Moment)
    (targets : ExportTargets) (disk : δ) : Except RunError Unit × Console σ × δ :=
  let (outcome, r) := driveThrough ⟨.new config sink, false⟩ turns
  let (outcome, disk) := conclude r.console.state outcome now targets disk
  (outcome, r.console, disk)

theorem run_eq_runThrough (config : ClientConfig) (sink : σ) (arrivals : List Arrival) (now : Moment)
    (targets : ExportTargets) (disk : δ) :
    run config sink arrivals now targets disk =
      runThrough config sink (Turn.within now.label arrivals) now targets disk := rfl

end

end NetGauge.Headless
