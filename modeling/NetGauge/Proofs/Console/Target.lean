import NetGauge.Link.Handle
import NetGauge.Proofs.Console.Session

set_option autoImplicit false

/-! # What a stop is meant for

A stop names no test: it is meant for the one in progress. Which one this is can be told from the history
of a run alone. Four kinds of changes decide on it, a start that went out, the announcement of a sweep,
the end of a run and a reset (`Change.decides`), and the latest of them counts: the test that was selected
when the start went out, a sweep, or none (`ClientState.InProgress`). The session agrees with the history
(`activeTest_eq_some_iff`), so a stop is always meant for the test in progress, however the selection has
been edited since the run before (`Console.run_stopTarget`). -/

namespace NetGauge

namespace Change

/-- Whether a change decides which test is in progress, or that none is. -/
def decides : Change → Bool
  | sent .startTest _ _ | reset => true
  | dispatched _ e => e.isTerminal || e.announcesSweep
  | _ => false

/-- The test that a change puts in progress in the state that it is made in. -/
def begins? (s : ClientState) : Change → Option TestKind
  | sent .startTest _ _ => some s.request.kind
  | dispatched _ e => if e.announcesSweep then some .latencySweep else none
  | _ => none

end Change

/-- The test that a history leaves in progress: the one that the latest of the changes that decide puts
    in progress, if it puts one. -/
def ClientState.InProgress (s : ClientState) (history : List Change) (test : TestKind) : Prop :=
  ∃ before change, Latest Change.decides history before change ∧
    change.begins? (s.after before) = some test

/-- The announcement of a sweep ends no run. -/
theorem Event.not_announcesSweep_of_isTerminal {e : Event} (h : e.isTerminal = true) :
    e.announcesSweep = false := by
  cases e with
  | testComplete _ | testStopped _ | sweepComplete _ => rfl
  | _ => cases h

section

variable {s t : ClientState} {change : Change}

/-- **A change that decides puts its test in progress,** and any other leaves the test as it is. -/
theorem activeTest_apply (hallowed : change.Allowed s) :
    (change.apply s).session.activeTest =
      if change.decides then change.begins? s else s.session.activeTest := by
  cases change with
  | noted label level message => rw [Change.apply, ClientState.session_note]; rfl
  | sent intent label command =>
      cases intent with
      | startTest =>
          obtain ⟨-, hsession⟩ := Console.begin_of_sent hallowed label
          rw [Change.apply, hsession]
          rfl
      | stopTest =>
          obtain ⟨_, -, hsession⟩ := Console.requestStop_of_sent hallowed label
          rw [Change.apply, hsession]
          rfl
      | startServer _ | stopServer _ | refreshServerStatus | requestStats =>
          rw [Change.apply, Console.session_applySent]
          rfl
  | dispatched label e =>
      rw [Change.apply, s.session_dispatch label e, Change.decides, Change.begins?]
      by_cases hends : e.isTerminal = true
      · simp [hends, Event.not_announcesSweep_of_isTerminal hends, Session.finish]
      · by_cases hsweep : e.announcesSweep = true
        · simp [hends, hsweep, Session.sweepStarted]
        · simp [hends, hsweep]
  | linked _ | modeSet _ | edited _ | reset => rfl

/-- The session of a client that began without a test has the test that its history leaves in
    progress. -/
theorem activeTest_eq_some_iff (hnone : s.session.activeTest = none) {history : List Change}
    (hpath : Path s history t) (test : TestKind) :
    t.session.activeTest = some test ↔ s.InProgress history test := by
  refine hpath.iff_latest (I := fun s => s.session.activeTest = some test)
    (B := fun s change => change.begins? s = some test) ?_ (by simp [hnone])
  intro s change hallowed
  rw [activeTest_apply hallowed]
  split <;> rfl

end

namespace Console

variable {σ : Type} [CommandSink σ]

/-- A stop of a test in progress is offered to the sink, and the sink decides. -/
theorem submit_stopTest_of_some (c : Console σ) (hconsistent : c.state.Consistent) {test : TestKind}
    (htest : c.state.session.activeTest = some test) (label : String) :
    (c.submit .stopTest label).1 = answer test.stopCommand c.sink ∧
      (c.submit .stopTest label).2.sink =
        offerAll c.sink (if CommandSink.isConnected c.sink then [test.stopCommand] else []) := by
  have hbusy : c.state.session.status ≠ .idle := by
    intro hidle
    rw [hconsistent.coherent.2 hidle] at htest
    cases htest
  have htarget := (c.state.session.stopTarget_eq_ok_iff test).2 ⟨hbusy, htest⟩
  have hallowed := (Intent.allowed_stopTest_eq_ok_iff c.state.request _ _).2 ⟨test, htarget, rfl⟩
  exact ⟨c.submit_of_allowed hallowed label, c.sink_submit_of_allowed hallowed label⟩

/-- Without a test in progress a stop is rejected before the sink is asked. -/
theorem submit_stopTest_of_none (c : Console σ) (htest : c.state.session.activeTest = none)
    (label : String) :
    (c.submit .stopTest label).1 = .error (.session .notRunning) ∧
      (c.submit .stopTest label).2.sink = c.sink := by
  refine c.submit_of_encode_error ?_ label
  simp only [Intent.encode, Intent.allowed, Session.stopTarget_of_none htest]
  rfl

/-- **A stop is meant for the test in progress.** Whatever was done to a new console, let a stop be
    submitted. If the history leaves a test in progress, nothing but the sink can stand against the stop,
    and a sink that is connected is offered the stop command of the tool of this test and nothing else.
    If the history leaves none in progress, the stop is rejected and the sink is offered nothing. -/
theorem run_stopTarget (config : ClientConfig) (sink : σ) (ops : List (String × Operation σ)) :
    let c := (Console.new config sink).run ops
    let InProgress := (Console.new config sink).state.InProgress ((Console.new config sink).history ops)
    (∀ test, InProgress test → ∀ label,
      (c.submit .stopTest label).1 = answer (Command.stop test.tool) c.sink ∧
      (c.submit .stopTest label).2.sink =
        offerAll c.sink (if CommandSink.isConnected c.sink then [Command.stop test.tool] else [])) ∧
    ((∀ test, ¬ InProgress test) → ∀ label,
      (c.submit .stopTest label).1 = .error (.session .notRunning) ∧
      (c.submit .stopTest label).2.sink = c.sink) := by
  intro c InProgress
  have hpath := (Console.new config sink).path_run ops
  have hagree (test : TestKind) : c.state.session.activeTest = some test ↔ InProgress test :=
    activeTest_eq_some_iff rfl hpath test
  refine ⟨fun test htest => ?_, fun hnone => ?_⟩
  · have hconsistent := (consistent_new config sink).path hpath
    exact c.submit_stopTest_of_some hconsistent ((hagree test).2 htest)
  · refine c.submit_stopTest_of_none ?_
    rw [Option.eq_none_iff_forall_ne_some]
    exact fun test htest => hnone test ((hagree test).1 htest)

/-- A test is started, and the backend announces a sweep in its place. -/
def overtaken : List (String × Operation Link.Handle) :=
  [("1", .submit .startTest), ("2", .event (.sweepStarted none))]

/-- The sweep is stopped, its end is announced, and another test is selected. -/
def overtakenAndEnded : List (String × Operation Link.Handle) :=
  overtaken ++ [("3", .submit .stopTest), ("4", .event (.testStopped none)), ("5", .selectTest .icmpPing)]

/-- A sweep is stopped by its own tool, not by that of the test that was started, and only once. -/
theorem run_stopTarget_overtaken :
    let sink : Link.Handle := { state := .connected, outbox := some {} }
    let c := (Console.new {} sink).run overtaken
    let ended := (Console.new {} sink).run overtakenAndEnded
    (c.submit .stopTest "3").1.isOk = true ∧
    (c.submit .stopTest "3").2.sink.outbox.map Link.Outbox.queued =
      some [.startThroughput ⟨"127.0.0.1", 10, 5201, false, none⟩, .stopSockperf] ∧
    (ended.submit .stopTest "6").1 = .error (.session .notRunning) ∧
    (ended.submit .stopTest "6").2.sink = ended.sink := by
  intro sink c ended
  obtain ⟨hbusy, -⟩ := run_stopTarget {} sink overtaken
  obtain ⟨-, hidle⟩ := run_stopTarget {} sink overtakenAndEnded
  have hsweep : (Console.new {} sink).state.InProgress ((Console.new {} sink).history overtaken) .latencySweep :=
    (activeTest_eq_some_iff rfl ((Console.new {} sink).path_run overtaken) _).1 rfl
  have hnone : ∀ test, ¬(Console.new {} sink).state.InProgress
      ((Console.new {} sink).history overtakenAndEnded) test := by
    intro test htest
    cases (activeTest_eq_some_iff rfl ((Console.new {} sink).path_run overtakenAndEnded) test).2 htest
  obtain ⟨hanswer, hsink⟩ := hbusy .latencySweep hsweep "3"
  obtain ⟨hrejected, hsame⟩ := hidle hnone "6"
  have hqueued : (offerAll c.sink (if CommandSink.isConnected c.sink then [Command.stop TestKind.latencySweep.tool]
      else [])).outbox.map Link.Outbox.queued =
        some [.startThroughput ⟨"127.0.0.1", 10, 5201, false, none⟩, .stopSockperf] := by
    decide +kernel
  have htaken : (answer (Command.stop TestKind.latencySweep.tool) c.sink).isOk = true := by decide +kernel
  refine ⟨?_, ?_, hrejected, hsame⟩
  · rw [hanswer]
    exact htaken
  · rw [hsink]
    exact hqueued

end Console

end NetGauge
