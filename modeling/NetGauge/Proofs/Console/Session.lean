import NetGauge.Proofs.Console.History

set_option autoImplicit false

/-! # The session over a whole run

What the user does and what the backend tells come in any order, and both change the session: a
sweep may be announced in listener mode, the end of a run may be told when none is in progress.
Three facts hold all the same, after every run of every console (`ClientState.Consistent`): there is
a test exactly when the session is not idle, the test in progress is the selected one or a sweep,
and in listener mode it can only be a sweep. No change that is allowed breaks them
(`Consistent.apply`).

With them goes what the console relies on when a command has gone out: the session does not refuse
the start or the stop that it has let through before (`begin_of_sent`, `requestStop_of_sent`). -/

namespace NetGauge

/-! ## The invariant -/

namespace ClientState

/-- How the session, the selection and the mode hang together. -/
structure Consistent (s : ClientState) : Prop where
  /-- There is a test exactly when the session is not idle. -/
  coherent : s.session.activeTest = none ↔ s.session.status = .idle
  /-- The test in progress is the selected one, unless the backend has announced a sweep. -/
  selected : ∀ test, s.session.activeTest = some test →
    test = s.request.kind ∨ test = .latencySweep
  /-- No test is started in listener mode, but a sweep may be announced. -/
  listener : s.session.mode = .listener → s.session.status ≠ .idle →
    s.session.activeTest = some .latencySweep

namespace Consistent

variable {s t : ClientState}

/-- Only the session and the request matter. -/
theorem of_eq (h : s.Consistent) (hsession : t.session = s.session)
    (hrequest : t.request = s.request) : t.Consistent := by
  refine ⟨?_, ?_, ?_⟩
  · rw [hsession]; exact h.coherent
  · rw [hsession, hrequest]; exact h.selected
  · rw [hsession]; exact h.listener

/-- An idle session agrees with every selection. -/
theorem of_idle (hstatus : s.session.status = .idle) (htest : s.session.activeTest = none) :
    s.Consistent where
  coherent := ⟨fun _ => hstatus, fun _ => htest⟩
  selected test hsome := by rw [htest] at hsome; cases hsome
  listener _ hbusy := absurd hstatus hbusy

/-- A sweep agrees with every selection and with both modes. -/
theorem of_sweep (hstatus : s.session.status ≠ .idle)
    (htest : s.session.activeTest = some .latencySweep) : s.Consistent where
  coherent := by rw [htest]; exact ⟨fun hnone => (nomatch hnone), fun hidle => absurd hidle hstatus⟩
  selected test hsome := by rw [htest] at hsome; exact .inr (Option.some.inj hsome).symm
  listener _ _ := htest

end Consistent

end ClientState

/-! ## What a command that was sent does to the session -/

namespace Console

variable {s : ClientState} {command : Command}

/-- A start that was let through is not refused once its command has gone out. -/
theorem begin_of_sent (h : Intent.startTest.allowed s.request s.session = .ok command)
    (label : String) :
    s.session.begin s.request.kind = .ok (applySent s label .startTest).session ∧
      (applySent s label .startTest).session =
        { s.session with status := .running, activeTest := some s.request.kind } := by
  obtain ⟨hcan, -⟩ := (Intent.allowed_startTest_eq_ok_iff _ _ _).1 h
  have hbegin := (s.session.begin_eq_ok_iff _ s.request.kind).2 ⟨hcan, rfl⟩
  have hafter := session_applySent s label .startTest
  simp only [hbegin, Except.toOption, Option.getD_some] at hafter
  exact ⟨hafter ▸ hbegin, hafter⟩

/-- A stop that was let through still finds its test once its command has gone out. -/
theorem requestStop_of_sent (h : Intent.stopTest.allowed s.request s.session = .ok command)
    (label : String) :
    ∃ test, s.session.requestStop = .ok (test, (applySent s label .stopTest).session) ∧
      (applySent s label .stopTest).session = { s.session with status := .stopping } := by
  obtain ⟨test, htarget, -⟩ := (Intent.allowed_stopTest_eq_ok_iff _ _ _).1 h
  have hstop := (s.session.requestStop_eq_ok_iff _ test).2 ⟨htarget, rfl⟩
  have hafter := session_applySent s label .stopTest
  simp only [hstop, Except.toOption, Option.map_some, Option.getD_some] at hafter
  exact ⟨test, hafter ▸ hstop, hafter⟩

end Console

/-! ## Every change keeps the invariant -/

namespace ClientState.Consistent

variable {s t : ClientState}

/-- A command that went out keeps the invariant, whatever it was sent for. -/
theorem applySent (h : s.Consistent) {intent : Intent} {command : Command}
    (hallowed : intent.allowed s.request s.session = .ok command) (label : String) :
    (Console.applySent s label intent).Consistent := by
  have hrequest := Console.request_applySent s label intent
  cases intent with
  | startTest =>
      obtain ⟨-, hsession⟩ := Console.begin_of_sent hallowed label
      obtain ⟨hcan, -⟩ := (Intent.allowed_startTest_eq_ok_iff _ _ _).1 hallowed
      obtain ⟨hmode, -⟩ := (s.session.checkCanStart_eq_ok_iff).1 hcan
      refine ⟨?_, ?_, ?_⟩
      · simp [hsession]
      · simp [hsession, hrequest]
      -- Only generator mode lets a test start.
      · simp [hsession, hmode]
  | stopTest =>
      obtain ⟨_, -, hsession⟩ := Console.requestStop_of_sent hallowed label
      obtain ⟨test, htarget, -⟩ := (Intent.allowed_stopTest_eq_ok_iff _ _ _).1 hallowed
      obtain ⟨hbusy, htest⟩ := (s.session.stopTarget_eq_ok_iff test).1 htarget
      refine ⟨?_, ?_, ?_⟩
      · simp [hsession, htest]
      · simpa [hsession, hrequest] using h.selected
      -- The test that is stopped was in progress before, so the mode agrees with it.
      · intro hmode _
        rw [hsession] at hmode ⊢
        exact h.listener hmode hbusy
  | startServer _ | stopServer _ | refreshServerStatus | requestStats =>
      exact h.of_eq (Console.session_applySent s label _) hrequest

/-- An event keeps the invariant, whether the user asked for what it tells or not. -/
theorem dispatch (h : s.Consistent) (label : String) (e : Event) :
    (s.dispatch label e).1.Consistent := by
  have hsession := s.session_dispatch label e
  have hrequest := s.request_dispatch label e
  split at hsession
  · exact .of_idle (by rw [hsession]; rfl) (by rw [hsession]; rfl)
  · split at hsession
    · exact .of_sweep (by rw [hsession]; simp [Session.sweepStarted]) (by rw [hsession]; rfl)
    · exact h.of_eq hsession hrequest

/-- **No change that is allowed breaks the invariant.** -/
theorem apply (h : s.Consistent) {change : Change} (hallowed : change.Allowed s) :
    (change.apply s).Consistent := by
  cases change with
  | noted label level message => exact h.of_eq (s.session_note ..) (s.request_note ..)
  | sent intent label command => exact h.applySent hallowed label
  | dispatched label e => exact h.dispatch label e
  | linked connectivity => exact h.of_eq rfl rfl
  | modeSet mode =>
      -- The mode stays, or there is no test that it could disagree with.
      rcases hallowed with hsame | hidle
      · have hsession : { s.session with mode := mode } = s.session := by rw [hsame]
        exact h.of_eq hsession rfl
      · exact .of_idle hidle (h.coherent.2 hidle)
  | edited edit => exact .of_idle hallowed (h.coherent.2 hallowed)
  | reset => exact .of_idle rfl rfl

theorem path (h : s.Consistent) {changes : List Change} (hpath : Path s changes t) :
    t.Consistent :=
  hpath.keeps (fun _ _ hallowed hs => hs.apply hallowed) h

end ClientState.Consistent

/-! ## Whole runs -/

namespace Console

variable {σ : Type} [CommandSink σ]

omit [CommandSink σ] in
/-- A new console is idle. -/
theorem consistent_new (config : ClientConfig) (sink : σ) :
    (Console.new config sink).state.Consistent :=
  .of_idle rfl rfl

/-- What was allowed when a submission went through. -/
theorem allowed_of_submit_ok (c : Console σ) (intent : Intent) (label : String)
    (h : (c.submit intent label).1 = .ok ()) :
    (∃ command, intent.allowed c.state.request c.state.session = .ok command) ∧
      (c.submit intent label).2.state = applySent c.state label intent := by
  have hsub := c.submission intent label
  generalize c.submit intent label = result at hsub h ⊢
  cases hsub with
  | sent command sink henc hsend =>
      exact ⟨⟨command, ((intent.encode_eq_ok_iff _ _ _ _).1 henc).1⟩, rfl⟩
  | refused command e sink henc hsend => cases h
  | rejected r henc => cases h

/-- **The session after any run.** Whatever was done to a new console, in whatever order and however
    its sink behaved: the session, the selection and the mode hang together, a start that goes
    through is not refused by the session and leaves the selected test running, and a stop that goes
    through finds its test and leaves it stopping. -/
theorem run_consistent (config : ClientConfig) (sink : σ) (ops : List (String × Operation σ)) :
    let c := (Console.new config sink).run ops
    c.state.Consistent ∧
    (∀ label, (c.submit .startTest label).1 = .ok () →
      let after := (c.submit .startTest label).2.state.session
      c.state.session.begin c.state.request.kind = .ok after ∧
        after.status = .running ∧ after.activeTest = some c.state.request.kind) ∧
    (∀ label, (c.submit .stopTest label).1 = .ok () →
      let after := (c.submit .stopTest label).2.state.session
      (∃ test, c.state.session.requestStop = .ok (test, after)) ∧ after.status = .stopping) := by
  intro c
  refine ⟨?_, ?_, ?_⟩
  · exact (consistent_new config sink).path ((Console.new config sink).path_run ops)
  · intro label hok
    obtain ⟨⟨command, hallowed⟩, hstate⟩ := c.allowed_of_submit_ok .startTest label hok
    obtain ⟨hbegin, hsession⟩ := begin_of_sent hallowed label
    rw [hstate]
    exact ⟨hbegin, by rw [hsession], by rw [hsession]⟩
  · intro label hok
    obtain ⟨⟨command, hallowed⟩, hstate⟩ := c.allowed_of_submit_ok .stopTest label hok
    obtain ⟨test, hstop, hsession⟩ := requestStop_of_sent hallowed label
    rw [hstate]
    exact ⟨⟨test, hstop⟩, by rw [hsession]⟩

end Console

end NetGauge
