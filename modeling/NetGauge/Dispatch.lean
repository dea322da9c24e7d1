import NetGauge.ClientState
import NetGauge.Event
import NetGauge.Measure

set_option autoImplicit false

/-! # Applying events

What an event of the backend changes, and what is left to do after it: nothing, asking for the
status of the servers, or telling the user of an error. No event changes the next test, the mode or
the connectivity (`request_dispatch`, `mode_dispatch`, `connectivity_dispatch`). -/

namespace NetGauge

/-- What is left to do after an event. -/
inductive FollowUp where
  | nothing
  | refreshStatus
  | reportError (message : String)

namespace Metrics

/-- The figures for the end of a run, in one line. -/
def summary (m : Metrics) : String :=
  let parts := [
    m.bandwidthMbps.map Measure.bandwidth,
    m.latencyAvgUs.map (fun x => "avg " ++ Measure.latency x),
    m.latencyP99Us.map (fun x => "p99 " ++ Measure.latency x),
    m.jitterMs.map (fun x => "jitter " ++ Measure.jitter x),
    m.lossPercent.map (fun x => "loss " ++ Measure.percent x)].filterMap id
  if parts.isEmpty then "no measurements reported" else String.intercalate ", " parts

/-- The value that belongs into a charted series. -/
def charted (m : Metrics) : Series → Option Float
  | .bandwidth => m.bandwidthMbps
  | .latencyAvg => m.latencyAvgUs
  | .latencyP99 => m.latencyP99Us

end Metrics

/-- The counters of both tools, in one line. -/
def ToolStats.summary (s : ToolStats) : String :=
  "iperf3: " ++ s.iperf.summary ++ " | sockperf: " ++ s.sockperf.summary

/-- Records every charted value of a report in the tick of a label. -/
def Telemetry.putAll (b : Telemetry) (m : Metrics) (label : String) : Telemetry :=
  Series.all.foldl (fun b s =>
    match m.charted s with
    | some x => b.put s x label
    | none => b) b

/-- What is said of a lifecycle message without a text of its own. -/
def lifecycleText : LifecycleSource → LifecyclePhase → String
  | .iperf, _ => "iperf3 test started"
  | .sockperf, _ => "sockperf test started"
  | .server, .started => "Server started"
  | .server, .stopped => "Server stopped"

namespace ClientState

/-- Takes the figures of a report into the charts and the latest figures. -/
def report (s : ClientState) (m : Metrics) (label : String) : ClientState :=
  { s with telemetry := s.telemetry.putAll m label, latest := s.latest.absorb m }

/-- Applies one event in the tick of a label. -/
def dispatch (label : String) (s : ClientState) : Event → ClientState × FollowUp
  | .connected message =>
    (s.note label .info (message.getD "Connected to backend"), .nothing)
  | .serverLifecycle source phase message =>
    (s.note label .info (message.getD (lifecycleText source phase)), .refreshStatus)
  | .testStarted message =>
    match message with
    | some text => (s.note label .info text, .nothing)
    | none => (s, .nothing)
  | .testStopped message =>
    let told := match s.session.activeTest with
      | some test => test.label ++ " stopped"
      | none => "Test stopped"
    ({ s with session := s.session.finish }.note label .info (message.getD told), .nothing)
  | .progress m => (s.report m label, .nothing)
  | .testComplete m =>
    let name := (s.session.activeTest.map TestKind.label).getD "Test"
    let s := s.report m label
    ({ s with session := s.session.finish }.note label .success
      (name ++ " complete: " ++ m.summary), .nothing)
  | .error message => (s, .reportError message)
  | .serverStatus status => ({ s with serverStatus := status }, .nothing)
  | .stats stats => (s.note label .info stats.summary, .nothing)
  | .sweepStarted message =>
    let total := s.pendingSweepTotal.getD s.request.msgSizes.length
    ({ s with
        pendingSweepTotal := none
        sweep := s.sweep.start total
        session := s.session.sweepStarted }.note label .info
      (message.getD "Latency sweep started"), .nothing)
  | .sweepProgress p =>
    ({ s with
        sweep := (s.sweep.announceTotal p.totalCount.value).progress p.currentSize p.currentIndex.value },
      .nothing)
  | .sweepPoint point =>
    let told := "Size " ++ toString point.payloadSize ++ " bytes: avg " ++ Measure.latency point.avg ++
      ", p99 " ++ Measure.latency point.p99
    ({ s.note label .info told with sweep := s.sweep.record point }, .nothing)
  | .sweepComplete reported =>
    let count := (s.sweep.outcome reported).length
    ({ s with
        sweep := s.sweep.finalize reported
        session := s.session.finish }.note label .success
      ("Latency sweep complete: " ++ toString count ++ " sizes measured"), .nothing)
  | .unknown kind => (s.note label .info ("Unhandled message type: " ++ kind), .nothing)

/-! ## What no event changes -/

theorem request_dispatch (label : String) (s : ClientState) (e : Event) :
    (s.dispatch label e).1.request = s.request := by
  cases e with
  | testStarted message => cases message <;> simp [dispatch, note]
  | _ => simp [dispatch, note, report]

theorem connectivity_dispatch (label : String) (s : ClientState) (e : Event) :
    (s.dispatch label e).1.connectivity = s.connectivity := by
  cases e with
  | testStarted message => cases message <;> simp [dispatch, note]
  | _ => simp [dispatch, note, report]

/-- An event that ends a run ends it here too, the announcement of a sweep puts the sweep in place of
    what was believed, and no other event touches the session. -/
theorem session_dispatch (label : String) (s : ClientState) (e : Event) :
    (s.dispatch label e).1.session =
      if e.isTerminal then s.session.finish
      else if e.announcesSweep then s.session.sweepStarted
      else s.session := by
  cases e with
  | testStarted message =>
      cases message <;> simp [dispatch, note, Event.isTerminal, Event.announcesSweep]
  | _ => simp [dispatch, note, report, Event.isTerminal, Event.announcesSweep]

/-- Only the events of a sweep touch the sweep. -/
theorem sweep_dispatch (label : String) (s : ClientState) (e : Event) :
    (s.dispatch label e).1.sweep =
      match e with
      | .sweepStarted _ => s.sweep.start (s.pendingSweepTotal.getD s.request.msgSizes.length)
      | .sweepProgress p =>
        (s.sweep.announceTotal p.totalCount.value).progress p.currentSize p.currentIndex.value
      | .sweepPoint point => s.sweep.record point
      | .sweepComplete reported => s.sweep.finalize reported
      | _ => s.sweep := by
  cases e with
  | testStarted message => cases message <;> simp [dispatch, note]
  | _ => simp [dispatch, note, report]

/-- Only reports touch the charts. -/
theorem telemetry_dispatch (label : String) (s : ClientState) (e : Event) :
    (s.dispatch label e).1.telemetry =
      match e with
      | .progress m | .testComplete m => s.telemetry.putAll m label
      | _ => s.telemetry := by
  cases e with
  | testStarted message => cases message <;> simp [dispatch, note]
  | _ => simp [dispatch, note, report]

/-- Only reports touch the latest figures. -/
theorem latest_dispatch (label : String) (s : ClientState) (e : Event) :
    (s.dispatch label e).1.latest =
      match e with
      | .progress m | .testComplete m => s.latest.absorb m
      | _ => s.latest := by
  cases e with
  | testStarted message => cases message <;> simp [dispatch, note]
  | _ => simp [dispatch, note, report]

theorem serverStatus_dispatch (label : String) (s : ClientState) (e : Event) :
    (s.dispatch label e).1.serverStatus =
      match e with
      | .serverStatus status => status
      | _ => s.serverStatus := by
  cases e with
  | testStarted message => cases message <;> simp [dispatch, note]
  | _ => simp [dispatch, note, report]

/-- The announcement of a sweep is what a pending number of sizes waits for. -/
theorem pendingSweepTotal_dispatch (label : String) (s : ClientState) (e : Event) :
    (s.dispatch label e).1.pendingSweepTotal =
      if e.announcesSweep then none else s.pendingSweepTotal := by
  cases e with
  | testStarted message => cases message <;> simp [dispatch, note, Event.announcesSweep]
  | _ => simp [dispatch, note, report, Event.announcesSweep]

theorem mode_dispatch (label : String) (s : ClientState) (e : Event) :
    (s.dispatch label e).1.session.mode = s.session.mode := by
  rw [session_dispatch]
  split
  · rfl
  · split <;> rfl

end ClientState

end NetGauge
