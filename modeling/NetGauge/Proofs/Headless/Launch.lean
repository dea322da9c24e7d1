import NetGauge.Headless
import NetGauge.Proofs.Console.Footprint
import NetGauge.Proofs.Console.Session

set_option autoImplicit false

/-! # Launching a run

A run is launched by one command: the start of its test, or of the server that its test needs
(`launchCommand?`). If the request and the mode give one, nothing but the sink can stand against it, so
the launch comes to what the sink says to the command (`launch_answer`). A run that waits for its first
connection is therefore launched there or ends there, by the answer of the sink at that moment
(`Fresh.step_connected`). -/

namespace NetGauge

variable {σ : Type} [CommandSink σ]

/-- A sink can only refuse for want of a connection, or in the delivery. -/
def Rejection.isTransport : Rejection → Bool
  | .notConnected | .delivery _ => true
  | .session _ | .missingParam _ _ | .emptySweep => false

theorem Console.isTransport_of_answer {command : Command} {sink : σ} {r : Rejection}
    (h : Console.answer command sink = .error r) : r.isTransport = true := by
  unfold Console.answer at h
  split at h
  · cases hsend : (CommandSink.send command sink).1 with
    | ok _ => rw [hsend] at h; cases h
    | error e => rw [hsend] at h; cases h; rfl
  · cases h; rfl

namespace Headless

/-- The command that launches a run. -/
def launchCommand? (request : TestRequest) : Mode → Option Command
  | .generator => request.startCommand.toOption
  | .listener => request.kind.server?.map .startServer

/-- Only a success is told as a success. -/
theorem ok_of_mapError {α ε δ : Type} {result : Except ε α} {f : ε → δ} {a : α}
    (h : result.mapError f = .ok a) : result = .ok a := by
  cases result with
  | ok b => cases h; rfl
  | error e => cases h

theorem mapError_eq_ok_iff {α ε δ : Type} {result : Except ε α} {f : ε → δ} {a : α} :
    result.mapError f = .ok a ↔ result = .ok a :=
  ⟨ok_of_mapError, fun h => h ▸ rfl⟩

/-- Why a launch was rejected. -/
def RunError.rejection? : RunError → Option Rejection
  | .startTest _ rejection | .startServer _ rejection => some rejection
  | .linkStopped | .backend _ | .noServer _ | .exporting _ => none

theorem launch_of_generator (c : Console σ) (label : String)
    (hmode : c.state.session.mode = .generator) :
    launch c label =
      ((c.submit .startTest label).1.mapError (.startTest c.state.request.kind),
        (c.submit .startTest label).2) := by
  simp only [launch, hmode]

theorem launch_of_listener (c : Console σ) (label : String) {server : Server}
    (hmode : c.state.session.mode = .listener)
    (hserver : c.state.request.kind.server? = some server) :
    launch c label =
      ((c.submit (.startServer server) label).1.mapError (.startServer server),
        (c.submit (.startServer server) label).2) := by
  simp only [launch, hmode, hserver]

/-- **A launch comes to what the sink says to its command.** -/
theorem launch_answer (c : Console σ) (label : String) {command : Command}
    (hidle : c.state.session.status = .idle)
    (hcommand : launchCommand? c.state.request c.state.session.mode = some command) :
    (launch c label).1.mapError RunError.rejection? =
      (Console.answer command c.sink).mapError some := by
  cases hmode : c.state.session.mode with
  | generator =>
      rw [hmode, launchCommand?] at hcommand
      cases hstart : c.state.request.startCommand with
      | error r =>
          rw [hstart] at hcommand
          cases hcommand
      | ok start =>
          rw [hstart] at hcommand
          cases hcommand
          have hcan := (c.state.session.checkCanStart_eq_ok_iff).2 ⟨hmode, hidle⟩
          have hallowed := (Intent.allowed_startTest_eq_ok_iff _ _ _).2 ⟨hcan, hstart⟩
          rw [launch_of_generator c label hmode, ← c.submit_of_allowed hallowed label]
          cases (c.submit .startTest label).1 <;> rfl
  | listener =>
      rw [hmode, launchCommand?] at hcommand
      cases hserver : c.state.request.kind.server? with
      | none =>
          rw [hserver] at hcommand
          cases hcommand
      | some server =>
          rw [hserver] at hcommand
          cases hcommand
          have hlistener := (c.state.session.checkListener_eq_ok_iff).2 hmode
          have hallowed := (Intent.allowed_startServer_eq_ok_iff c.state.request c.state.session _
            server).2 ⟨hlistener, rfl⟩
          rw [launch_of_listener c label hmode hserver, ← c.submit_of_allowed hallowed label]
          cases (c.submit (.startServer server) label).1 <;> rfl

/-- A generator that has been launched has a test in progress. -/
theorem busy_of_launch (c : Console σ) (label : String)
    (hmode : c.state.session.mode = .generator) (hok : (launch c label).1 = .ok ()) :
    (launch c label).2.state.session.mode = .generator ∧
      (launch c label).2.state.session.status ≠ .idle := by
  rw [launch_of_generator c label hmode] at hok ⊢
  obtain ⟨⟨command, hallowed⟩, hstate⟩ :=
    c.allowed_of_submit_ok .startTest label (ok_of_mapError hok)
  obtain ⟨-, hsession⟩ := Console.begin_of_sent hallowed label
  simp only [hstate, hsession]
  exact ⟨hmode, nofun⟩

section

variable {c : Console σ} {label : String}

theorem ensureLaunched_of_ok (hok : (launch c label).1 = .ok ()) :
    Run.ensureLaunched ⟨c, false⟩ label = (.goOn, ⟨(launch c label).2, true⟩) := by
  unfold Run.ensureLaunched
  rcases hlaunch : launch c label with ⟨_ | _, after⟩
  · rw [hlaunch] at hok
    cases hok
  · rfl

/-- A launch that fails ends the run. -/
theorem ensureLaunched_of_error {e : RunError} (herror : (launch c label).1 = .error e) :
    Run.ensureLaunched ⟨c, false⟩ label = (.ended (.error e), ⟨(launch c label).2, false⟩) := by
  unfold Run.ensureLaunched
  rcases hlaunch : launch c label with ⟨_ | _, after⟩
  · rw [hlaunch] at herror
    cases herror
    rfl
  · rw [hlaunch] at herror
    cases herror

end

/-! ## The first connection -/

/-- A run that waits for its first connection, and the command that will launch it. -/
structure Fresh (r : Run σ) (command : Command) : Prop where
  unlaunched : r.launched = false
  idle : r.console.state.session.status = .idle
  launches : launchCommand? r.console.state.request r.console.state.session.mode = some command

/-- The sink as the launch finds it, if the turn brings a connection. -/
def Turn.sinkAtLaunch (t : Turn σ) (r : Run σ) : σ :=
  t.amid ((r.drift t.meanwhile).console.onConnected t.label).sink

section

variable {r : Run σ} {command : Command} {t : Turn σ}

/-- **At its first connection a run is launched, or it ends.** A generator that is launched has a test in
    progress. -/
theorem Fresh.step_connected (h : Fresh r command) (harrival : t.arrival = .message .connected) :
    match Console.answer command (t.sinkAtLaunch r) with
    | .ok () =>
      ∃ s, step r t = (.goOn, s) ∧ s.launched = true ∧
        (r.console.state.session.mode = .generator →
          s.console.state.session.mode = .generator ∧ s.console.state.session.status ≠ .idle)
    | .error rejection =>
      ∃ e s, step r t = (.ended (.error e), s) ∧ e.rejection? = some rejection := by
  let told := (r.drift t.meanwhile).console.onConnected t.label
  let c : Console σ := { told with sink := t.amid told.sink }
  have hstep : step r t = Run.ensureLaunched ⟨c, false⟩ t.label := by
    simp only [step, harrival, ← h.unlaunched]
    rfl
  -- What the console does on a connection leaves the request and the session alone.
  obtain ⟨log, hstate⟩ := (r.drift t.meanwhile).console.state_onConnected t.label
  have hsession : c.state.session = r.console.state.session :=
    (congrArg ClientState.session hstate).trans rfl
  have hrequest : c.state.request = r.console.state.request :=
    (congrArg ClientState.request hstate).trans rfl
  have hlaunch : (launch c t.label).1.mapError RunError.rejection? =
      (Console.answer command (t.sinkAtLaunch r)).mapError some :=
    launch_answer c t.label (by rw [hsession]; exact h.idle)
      (by rw [hrequest, hsession]; exact h.launches)
  cases hanswer : Console.answer command (t.sinkAtLaunch r) with
  | ok _ =>
      rw [hanswer] at hlaunch
      have hok := ok_of_mapError hlaunch
      refine ⟨_, hstep.trans (ensureLaunched_of_ok hok), rfl, fun hmode => ?_⟩
      exact busy_of_launch c t.label (by rw [hsession]; exact hmode) hok
  | error rejection =>
      rw [hanswer] at hlaunch
      cases hresult : (launch c t.label).1 with
      | ok _ => rw [hresult] at hlaunch; cases hlaunch
      | error e =>
          rw [hresult] at hlaunch
          exact ⟨e, _, hstep.trans (ensureLaunched_of_error hresult), Except.error.inj hlaunch⟩

end

end Headless

end NetGauge
