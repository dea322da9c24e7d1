import NetGauge.Proofs.Headless.Launch
import NetGauge.Proofs.Link.Farewell

set_option autoImplicit false

/-! # The stop command of an interrupted run

A run that is interrupted while its test is in progress tells the backend to stop the test, and then
shuts the link down. It is told that the command was taken if the link was up when it looked and there was
a queue when it sent. This is not to say that the command gets out: it waits in the queue, the shutdown
is asked for at once, and the supervisor takes what it finds first. The command is written exactly if the
supervisor comes to find the queue empty (`onInterrupt_stop`). -/

namespace NetGauge

namespace Link

/-- What a client sees of a link while others are at work on it: the state of the link at the moment in
    which it looks, and the queue at the moment in which it sends. -/
structure Glimpse where
  seen : Connectivity
  handle : Handle

instance : CommandSink Glimpse where
  isConnected g := g.seen == .connected
  send command g := ((g.handle.send command).1, { g with handle := (g.handle.send command).2 })

end Link

namespace Headless

open Link (Glimpse Step Supervisor takenFor)

variable {σ : Type} [CommandSink σ]

/-- A test in progress is told to stop, and the run ends well whatever comes of it. -/
theorem step_interrupt {r : Run σ} {test : TestKind} (hlaunched : r.launched = true)
    (htest : r.console.state.session.stopTarget = .ok test) (label : String) :
    step r { label := label, arrival := .interrupt } =
      (.ended (.ok ()), { r with console := (r.console.submit .stopTest label).2 }) := by
  have hbusy : ¬r.console.state.session.isIdle = true := by
    have hstatus := ((r.console.state.session.stopTarget_eq_ok_iff test).1 htest).1
    simpa [Session.isIdle] using hstatus
  exact if_pos ⟨hlaunched, hbusy⟩

/-- What becomes of the stop command at the near end of the link. -/
theorem submit_stopTest {c : Console Glimpse} {test : TestKind}
    (htest : c.state.session.stopTarget = .ok test) (label : String) :
    (c.submit .stopTest label).1 = Console.answer test.stopCommand c.sink ∧
      (c.submit .stopTest label).2.sink.handle =
        if c.sink.seen = .connected then (c.sink.handle.send test.stopCommand).2
        else c.sink.handle := by
  have hallowed := (Intent.allowed_stopTest_eq_ok_iff c.state.request _ _).2 ⟨test, htest, rfl⟩
  refine ⟨c.submit_of_allowed hallowed label, ?_⟩
  rw [c.sink_submit_of_allowed hallowed]
  cases hseen : c.sink.seen with
  | connected => simp [CommandSink.isConnected, hseen, Console.offerAll, CommandSink.send]
  | disconnected => simp [CommandSink.isConnected, hseen, Console.offerAll]

/-- Whether the stop command is taken: by the state of the link when the run looks, and by the queue when
    it sends. -/
theorem submit_stopTest_eq_ok_iff {c : Console Glimpse} {test : TestKind} {s : Supervisor}
    (htest : c.state.session.stopTarget = .ok test) (hslot : s.Slotted)
    (hhandle : c.sink.handle = s.handle) (label : String) :
    (c.submit .stopTest label).1 = .ok () ↔
      c.sink.seen = .connected ∧ s.stage.installed = true := by
  rw [(submit_stopTest htest label).1]
  cases hseen : c.sink.seen with
  | disconnected => simp [Console.answer, CommandSink.isConnected, hseen]
  | connected =>
      cases hin : s.stage.installed with
      | true =>
          have htaken := hslot.send_of_installed hin test.stopCommand
          simp [Console.answer, CommandSink.isConnected, CommandSink.send, hseen, hhandle, htaken,
            mapError_eq_ok_iff]
      | false =>
          have hrefused := hslot.send_of_not_installed hin test.stopCommand
          simp [Console.answer, CommandSink.isConnected, CommandSink.send, hseen, hhandle, hrefused,
            mapError_eq_ok_iff]

/-- **What becomes of the stop command of an interrupted run.** Let a test be in progress, let the run
    look at the link and send its command at any two moments of a run of the supervisor, and let nothing
    be sent after it. Then the run ends well; it is told that the command was taken exactly if the link
    was up at the first moment and a queue was in the slot at the second; and in this case the command,
    the last that was taken for its connection, is written with all the others exactly if the supervisor
    comes to find the queue empty while it serves the connection. -/
theorem onInterrupt_stop {before between later : List Step} {s₀ s t : Supervisor}
    (hlook : ({} : Supervisor).run? before = some s₀) (hsend : s₀.run? between = some s)
    {r : Run Glimpse} {test : TestKind} (hlaunched : r.launched = true)
    (htest : r.console.state.session.stopTarget = .ok test)
    (hsink : r.console.sink = ⟨s₀.handle.state, s.handle⟩) (label : String) :
    let after := (r.console.submit .stopTest label).2
    let s' : Supervisor := { s with handle := after.sink.handle }
    let k := s.connections.length
    let taken := takenFor k
      (({} : Supervisor).takenAlong (before ++ between ++ [.send test.stopCommand]))
    step r { label := label, arrival := .interrupt } = (.ended (.ok ()), { r with console := after }) ∧
    ((r.console.submit .stopTest label).1 = .ok () ↔
      s₀.handle.state = .connected ∧ s.stage.installed = true) ∧
    ((r.console.submit .stopTest label).1 = .ok () →
      s'.run? later = some t → (∀ command, .send command ∉ later) →
      taken.getLast? = some test.stopCommand ∧
      (t.writtenTo k = some taken ↔
        ∃ xs ys u, later = xs ++ ys ∧ s'.run? xs = some u ∧ u.Drained k)) := by
  intro after s' k taken
  have hrun : ({} : Supervisor).run? (before ++ between) = some s := by
    rw [Supervisor.run?_append, hlook]
    exact hsend
  obtain ⟨hslot, hcurrent, -⟩ := Supervisor.run_account .new Supervisor.current_new hrun
  have hhandle : r.console.sink.handle = s.handle := by rw [hsink]
  have htaken := submit_stopTest_eq_ok_iff htest hslot hhandle label
  rw [hsink] at htaken
  refine ⟨step_interrupt hlaunched htest label, htaken, ?_⟩
  intro hok hlater hquiet
  obtain ⟨hseen, hin⟩ := htaken.1 hok
  -- The command is a step of the supervisor like any other.
  have hafter : s' = { s with handle := (s.handle.send test.stopCommand).2 } := by
    have hqueue := (submit_stopTest htest label).2
    rw [hsink, if_pos hseen] at hqueue
    exact congrArg (fun handle => { s with handle := handle }) hqueue
  have hsent : ({} : Supervisor).run? (before ++ between ++ [.send test.stopCommand]) = some s' := by
    rw [Supervisor.run?_append, hrun, hafter]
    rfl
  obtain ⟨hslot', hcurrent', hbooks⟩ := Supervisor.run_account .new Supervisor.current_new hsent
  have hbooks' : taken = takenFor k s'.account := congrArg (takenFor k) hbooks.symm
  obtain ⟨queued, hbox⟩ := hslot.present hin
  have hsend' := Link.Handle.send_of_outbox_some test.stopCommand s.handle queued hbox
  have hpending : s'.pending = s.stage.inHand ++ queued ++ [test.stopCommand] := by
    rw [hafter, hsend', List.append_assoc]
    rfl
  refine ⟨?_, ?_⟩
  · rw [hbooks', Supervisor.takenFor_account, if_pos rfl, hpending, ← List.append_assoc]
    exact List.getLast?_concat
  · rw [hbooks']
    exact Supervisor.writtenTo_eq_iff hslot' hcurrent' (by rw [hpending]; simp) hquiet hlater

/-- What starts the test of a default configuration. -/
def startDefault : Command := .startThroughput ⟨"127.0.0.1", 10, 5201, false, none⟩

/-- A link that is up and over which everything has been written. -/
def idleLink : Link.Handle := { state := .connected, outbox := some {} }

/-- A connection over which a run starts its test. -/
def upToStart : List Step :=
  [.connectSucceeded, .proceeded, .proceeded, .proceeded, .send .getServerStatus,
    .send startDefault, .dequeued, .written, .dequeued, .written]

/-- The run that starts its test over this connection. -/
def startedRun : Run Glimpse :=
  (step ⟨.new {} ⟨.connected, idleLink⟩, false⟩
    { label := "1", arrival := .message .connected }).2.drift (fun _ => ⟨.connected, idleLink⟩)

/-- The supervisor writes what waits before it notices that it is to stop. -/
def patientShutdown : List Step :=
  [.shutdown, .dequeued, .written, .cancelNoticed, .proceeded, .proceeded, .proceeded, .proceeded,
    .cancelNoticed, .proceeded, .proceeded]

theorem onInterrupt_stop_patientShutdown :
    ∃ s t, ({} : Supervisor).run? upToStart = some s ∧
      ({ s with handle := (startedRun.console.submit .stopTest "2").2.sink.handle } :
        Supervisor).run? patientShutdown = some t ∧
      t.stage = .stopped ∧
      t.writtenTo 1 = some [.getServerStatus, startDefault, .stopIperf] := by
  obtain ⟨s, t, u, hrun, hsink, hlength, hlater, hstage, hfirst, hdrained⟩ :
      ∃ s t u, ({} : Supervisor).run? upToStart = some s ∧
        startedRun.console.sink = ⟨s.handle.state, s.handle⟩ ∧ s.connections.length = 1 ∧
        ({ s with handle := (startedRun.console.submit .stopTest "2").2.sink.handle } :
          Supervisor).run? patientShutdown = some t ∧ t.stage = .stopped ∧
        ({ s with handle := (startedRun.console.submit .stopTest "2").2.sink.handle } :
          Supervisor).run? [.shutdown, .dequeued, .written] = some u ∧ u.Drained 1 :=
    ⟨_, _, _, rfl, rfl, rfl, rfl, rfl, rfl, rfl, rfl, rfl⟩
  have htest : startedRun.console.state.session.stopTarget = .ok .throughputTcp := rfl
  have hquiet : ∀ command, .send command ∉ patientShutdown := by simp [patientShutdown]
  have hsame : s.run? [] = some s := rfl
  obtain ⟨-, -, hstop⟩ := onInterrupt_stop hrun hsame rfl htest hsink "2"
  obtain ⟨-, hwritten⟩ := hstop rfl hlater hquiet
  rw [hlength] at hwritten
  exact ⟨s, t, hrun, hlater, hstage, hwritten.2 ⟨_, _, u, rfl, hfirst, hdrained⟩⟩

/-- The supervisor notices that it is to stop before it writes what waits. -/
def hastyShutdown : List Step :=
  [.shutdown, .cancelNoticed, .proceeded, .proceeded, .proceeded, .proceeded, .cancelNoticed,
    .proceeded, .proceeded]

/-- A stop command that was taken over a link that is up, and that the supervisor gives up unwritten as
    it says farewell. -/
theorem interrupt_hastyShutdown :
    let interrupt : Turn Glimpse := { label := "2", arrival := .interrupt }
    ∃ s t, ({} : Supervisor).run? upToStart = some s ∧ s.stage = .serving ∧
      startedRun.launched = true ∧ startedRun.console.state.session.status = .running ∧
      startedRun.console.sink = ⟨s.handle.state, s.handle⟩ ∧
      (startedRun.console.submit .stopTest "2").1 = .ok () ∧
      (step startedRun interrupt).1 = .ended (.ok ()) ∧
      ({ s with handle := (step startedRun interrupt).2.console.sink.handle } :
        Supervisor).run? hastyShutdown = some t ∧
      t.stage = .stopped ∧
      t.connections = [{ written := [.getServerStatus, startDefault], discarded := [.stopIperf],
                         farewell := true }] :=
  ⟨_, _, rfl, rfl, rfl, rfl, rfl, rfl, rfl, rfl, rfl, rfl⟩

end Headless

end NetGauge
