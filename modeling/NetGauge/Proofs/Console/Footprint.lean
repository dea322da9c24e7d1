import NetGauge.Link.Handle
import NetGauge.Proofs.Console.History

set_option autoImplicit false

/-! # What messages and intents may touch

The backend sends what it likes, in any order and as often as it likes. Each event has a footprint, the
parts of the client's state that it may change (`Event.touches`), and changes nothing outside of it
(`Part.same_dispatch`). What the console does after an event adds to the log, and offers the sink a
request for the status of the servers after a message about the lifecycle of something
(`Console.sink_handleEvent`). No list of messages therefore starts or stops anything, or changes what
the next start will start (`Console.handleEvent_footprint`).

The intents of the user have footprints as well (`Intent.touches`, `Console.same_submit`). -/

namespace NetGauge

/-! ## Parts -/

/-- A part of what the client knows. -/
inductive Part where
  | request
  | connectivity
  | mode
  /-- The status of the run and the test in progress. -/
  | run
  | serverStatus
  | telemetry
  | latest
  | sweep
  /-- The number of sizes of a sweep that has not been announced yet. -/
  | pendingSweep
  | log

/-- Two states agree in a part. -/
def Part.Same (s t : ClientState) : Part → Prop
  | request => t.request = s.request
  | connectivity => t.connectivity = s.connectivity
  | mode => t.session.mode = s.session.mode
  | run => t.session.status = s.session.status ∧ t.session.activeTest = s.session.activeTest
  | serverStatus => t.serverStatus = s.serverStatus
  | telemetry => t.telemetry = s.telemetry
  | latest => t.latest = s.latest
  | sweep => t.sweep = s.sweep
  | pendingSweep => t.pendingSweepTotal = s.pendingSweepTotal
  | log => t.log = s.log

/-- Whether an event may change a part. -/
def Event.touches (e : Event) : Part → Bool
  | .request | .connectivity | .mode => false
  | .run => (e matches .testStopped _ | .testComplete _ | .sweepComplete _ | .sweepStarted _)
  | .serverStatus => (e matches .serverStatus _)
  | .telemetry | .latest => (e matches .progress _ | .testComplete _)
  | .sweep => (e matches .sweepStarted _ | .sweepProgress _ | .sweepPoint _ | .sweepComplete _)
  | .pendingSweep => (e matches .sweepStarted _)
  | .log => true

namespace Part

variable {s t u : ClientState}

theorem Same.trans {part : Part} (h : part.Same s t) (h' : part.Same t u) : part.Same s u := by
  cases part with
  | run => exact ⟨h'.1.trans h.1, h'.2.trans h.2⟩
  | _ => exact Eq.trans h' h

/-- Whoever only writes to the log leaves all other parts alone. -/
theorem same_log {part : Part} (log : ActivityLog) (h : part ≠ .log) :
    part.Same s { s with log := log } := by
  cases part with
  | run => exact ⟨rfl, rfl⟩
  | log => exact absurd rfl h
  | _ => rfl

/-- **An event changes nothing outside of its footprint.** -/
theorem same_dispatch {part : Part} {e : Event} (h : e.touches part = false) (label : String) :
    part.Same s (s.dispatch label e).1 := by
  cases part with
  | request => exact s.request_dispatch label e
  | connectivity => exact s.connectivity_dispatch label e
  | mode => exact s.mode_dispatch label e
  | run =>
      -- What leaves the run alone leaves the whole session alone.
      have hsession : (s.dispatch label e).1.session = s.session := by
        rw [s.session_dispatch label e]
        cases e with
        | testStopped _ | testComplete _ | sweepComplete _ | sweepStarted _ => cases h
        | _ => rfl
      exact ⟨congrArg Session.status hsession, congrArg Session.activeTest hsession⟩
  | serverStatus =>
      refine (s.serverStatus_dispatch label e).trans ?_
      cases e with
      | serverStatus _ => cases h
      | _ => rfl
  | telemetry =>
      refine (s.telemetry_dispatch label e).trans ?_
      cases e with
      | progress _ | testComplete _ => cases h
      | _ => rfl
  | latest =>
      refine (s.latest_dispatch label e).trans ?_
      cases e with
      | progress _ | testComplete _ => cases h
      | _ => rfl
  | sweep =>
      refine (s.sweep_dispatch label e).trans ?_
      cases e with
      | sweepStarted _ | sweepProgress _ | sweepPoint _ | sweepComplete _ => cases h
      | _ => rfl
  | pendingSweep =>
      refine (s.pendingSweepTotal_dispatch label e).trans ?_
      cases e with
      | sweepStarted _ => cases h
      | _ => rfl
  | log => cases h

end Part

/-! ## What a command that was sent may touch -/

/-- Whether an intent may change a part once its command has gone out. -/
def Intent.touches (intent : Intent) : Part → Bool
  | .run => (intent matches .startTest | .stopTest)
  | .telemetry | .latest | .pendingSweep => (intent matches .startTest)
  | .log => true
  | .request | .connectivity | .mode | .serverStatus | .sweep => false

namespace Console

section

variable (s : ClientState) (label : String)

theorem mode_applySent (intent : Intent) :
    (applySent s label intent).session.mode = s.session.mode := by
  have hsession := session_applySent s label intent
  cases intent with
  | startTest =>
      cases hbegin : s.session.begin s.request.kind with
      | ok session =>
          obtain ⟨-, rfl⟩ := (s.session.begin_eq_ok_iff session _).1 hbegin
          simp [hsession, hbegin, Except.toOption]
      | error e => simp [hsession, hbegin, Except.toOption]
  | stopTest =>
      cases hstop : s.session.requestStop with
      | ok stopped =>
          obtain ⟨-, hstopped⟩ := (s.session.requestStop_eq_ok_iff stopped.2 stopped.1).1 hstop
          simp [hsession, hstop, hstopped, Except.toOption]
      | error e => simp [hsession, hstop, Except.toOption]
  | startServer _ | stopServer _ | refreshServerStatus | requestStats => rw [hsession]

theorem serverStatus_applySent (intent : Intent) :
    (applySent s label intent).serverStatus = s.serverStatus := by
  cases intent with
  | startTest =>
      simp only [applySent, ClientState.note, begun, prepared]
      split <;> split <;> rfl
  | stopTest =>
      simp only [applySent, ClientState.note]
      split <;> rfl
  | startServer _ | stopServer _ => simp only [applySent, ClientState.note]
  | refreshServerStatus | requestStats => rfl

/-- **A command that was sent changes nothing outside of its footprint.** -/
theorem same_applySent {intent : Intent} {part : Part} (h : intent.touches part = false) :
    part.Same s (applySent s label intent) := by
  cases part with
  | request => exact request_applySent s label intent
  | connectivity => exact connectivity_applySent s label intent
  | mode => exact mode_applySent s label intent
  | run =>
      -- Only the start and the stop of a test touch the session.
      have hsession : (applySent s label intent).session = s.session := by
        rw [session_applySent]
        cases intent with
        | startTest | stopTest => cases h
        | _ => rfl
      exact ⟨congrArg Session.status hsession, congrArg Session.activeTest hsession⟩
  | serverStatus => exact serverStatus_applySent s label intent
  | telemetry =>
      have hstart : intent ≠ .startTest := by rintro rfl; cases h
      exact (telemetry_applySent s label intent).trans (if_neg fun hboth => hstart hboth.1)
  | latest =>
      have hstart : intent ≠ .startTest := by rintro rfl; cases h
      exact (latest_applySent s label intent).trans (if_neg hstart)
  | sweep => exact sweep_applySent s label intent
  | pendingSweep =>
      have hstart : intent ≠ .startTest := by rintro rfl; cases h
      exact (pendingSweepTotal_applySent s label intent).trans (if_neg fun hboth => hstart hboth.1)
  | log => cases h

end

variable {σ : Type} [CommandSink σ] (c : Console σ) (label : String)

/-- The same for a submission, accepted or not. -/
theorem same_submit {intent : Intent} {part : Part} (h : intent.touches part = false) :
    part.Same c.state (c.submit intent label).2.state := by
  have hpart : part ≠ .log := by
    rintro rfl
    cases h
  have hsub := c.submission intent label
  generalize c.submit intent label = result at hsub ⊢
  cases hsub with
  | sent command sink henc hsend => exact same_applySent c.state label h
  | refused command e sink henc hsend => exact Part.same_log _ hpart
  | rejected r henc => exact Part.same_log _ hpart

end Console

/-! ## What follows an event -/

/-- Whether an event makes the client ask for the status of the servers. -/
def Event.asksForStatus (e : Event) : Bool := e matches .serverLifecycle _ _ _

theorem ClientState.planEvent_intent (s : ClientState) (label : String) (e : Event) :
    (s.planEvent label e).intent = if e.asksForStatus then some .refreshServerStatus else none := by
  cases e with
  | testStarted message => cases message <;> rfl
  | _ => rfl

namespace Console

variable {σ : Type} [CommandSink σ]

/-- Asking for the status of the servers writes to the log at most. -/
theorem state_refresh (c : Console σ) (label : String) :
    ∃ log, (c.submit .refreshServerStatus label).2.state = { c.state with log := log } := by
  have hsub := c.submission .refreshServerStatus label
  generalize c.submit .refreshServerStatus label = result at hsub ⊢
  cases hsub with
  | sent command sink henc hsend => exact ⟨c.state.log, rfl⟩
  | refused command e sink henc hsend => exact ⟨_, rfl⟩
  | rejected r henc => exact ⟨_, rfl⟩

/-- What the sink is offered when the client asks for the status of the servers. -/
theorem sink_refresh (c : Console σ) (label : String) :
    (c.submit .refreshServerStatus label).2.sink =
      offerAll c.sink (if CommandSink.isConnected c.sink then [.getServerStatus] else []) := by
  rw [sink_submit]
  cases CommandSink.isConnected c.sink <;> rfl

/-- What the console does after the changes of an event writes to the log at most. -/
theorem state_pursue_planEvent (c : Console σ) (s : ClientState) (label : String) (e : Event) :
    ∃ log, (c.pursue label (s.planEvent label e).intent).state = { c.state with log := log } := by
  rw [s.planEvent_intent]
  split
  · exact c.state_refresh label
  · exact ⟨c.state.log, rfl⟩

/-- The changes of an event are its own and an entry in the log. -/
theorem after_planEvent (s : ClientState) (label : String) (e : Event) :
    ∃ log, s.after (s.planEvent label e).changes = { (s.dispatch label e).1 with log := log } := by
  unfold ClientState.planEvent
  cases (s.dispatch label e).2 with
  | nothing | refreshStatus => exact ⟨_, rfl⟩
  | reportError message => exact ⟨_, rfl⟩

/-- **The console applies an event and writes to the log,** and does nothing else to the state. -/
theorem state_handleEvent (c : Console σ) (label : String) (e : Event) :
    ∃ log, (c.handleEvent label e).state = { (c.state.dispatch label e).1 with log := log } := by
  obtain ⟨log, hafter⟩ := after_planEvent c.state label e
  obtain ⟨log', hpursue⟩ := state_pursue_planEvent
    { c with state := c.state.after (c.state.planEvent label e).changes } c.state label e
  refine ⟨log', ?_⟩
  rw [handleEvent_eq, hpursue]
  show { c.state.after (c.state.planEvent label e).changes with log := log' } = _
  rw [hafter]

/-- **After an event the sink is offered a request for the status of the servers** if the event calls for
    it and the sink is connected, and nothing else. -/
theorem sink_handleEvent (c : Console σ) (label : String) (e : Event) :
    (c.handleEvent label e).sink =
      offerAll c.sink
        (if e.asksForStatus ∧ CommandSink.isConnected c.sink then [.getServerStatus] else []) := by
  rw [handleEvent_eq, ClientState.planEvent_intent]
  cases e.asksForStatus with
  | false => rfl
  | true => exact (sink_refresh _ label).trans (by simp)

/-- What an event does to the session. -/
theorem session_handleEvent (c : Console σ) (label : String) (e : Event) :
    (c.handleEvent label e).state.session =
      if e.isTerminal then c.state.session.finish
      else if e.announcesSweep then c.state.session.sweepStarted
      else c.state.session := by
  obtain ⟨log, hstate⟩ := c.state_handleEvent label e
  rw [hstate]
  exact c.state.session_dispatch label e

theorem same_handleEvent (c : Console σ) (label : String) {e : Event} {part : Part}
    (h : e.touches part = false) : part.Same c.state (c.handleEvent label e).state := by
  obtain ⟨log, hstate⟩ := c.state_handleEvent label e
  have hpart : part ≠ .log := by
    rintro rfl
    cases h
  rw [hstate]
  exact (Part.same_dispatch h label).trans (Part.same_log log hpart)

/-! ## The link -/

/-- A console that is told of the link notes its state and writes to the log. -/
theorem state_onConnected (c : Console σ) (label : String) :
    ∃ log, (c.onConnected label).state =
      { c.state with connectivity := .connected, log := log } := by
  obtain ⟨log, hrefresh⟩ := state_refresh
    ({ c with state := { c.state with connectivity := .connected } }.record label .success
      "Connected to backend") label
  refine ⟨log, hrefresh.trans ?_⟩
  simp only [record, ClientState.note]

theorem sink_onConnected (c : Console σ) (label : String) :
    (c.onConnected label).sink =
      offerAll c.sink (if CommandSink.isConnected c.sink then [.getServerStatus] else []) := by
  have hsink : ({ c with state := { c.state with connectivity := .connected } }.record label .success
      "Connected to backend").sink = c.sink := by simp only [record]
  rw [onConnected, sink_refresh, hsink]

omit [CommandSink σ] in
theorem state_onDisconnected (c : Console σ) (label : String) :
    ∃ log, (c.onDisconnected label).state =
      { c.state with connectivity := .disconnected, log := log } := ⟨_, rfl⟩

/-! ## Messages -/

/-- A part that no event touches stays as it is whatever text comes. -/
theorem same_handlePayload (c : Console σ) (label text : String) {part : Part}
    (hnever : ∀ e : Event, e.touches part = false) :
    part.Same c.state (c.handlePayload label text).state := by
  unfold handlePayload
  cases Event.decode text with
  | ok e => exact c.same_handleEvent label (hnever e)
  | error err =>
      have hpart : part ≠ .log := by
        rintro rfl
        cases hnever (.connected none)
      exact Part.same_log _ hpart

/-- Whatever text comes, the sink is offered nothing but a request for the status of the servers. -/
theorem sink_handlePayload (c : Console σ) (label text : String) :
    ∃ n, (c.handlePayload label text).sink =
      offerAll c.sink (List.replicate n .getServerStatus) := by
  unfold handlePayload
  cases Event.decode text with
  | ok e =>
      rw [sink_handleEvent]
      split
      · exact ⟨1, rfl⟩
      · exact ⟨0, rfl⟩
  | error err =>
      -- The log alone has changed.
      refine ⟨0, ?_⟩
      simp only [record, List.replicate_zero, offerAll, List.foldl_nil]

/-- Texts that come from the backend, each in its tick. -/
def texts (messages : List (String × String)) : List (String × Operation σ) :=
  messages.map (fun (label, text) => (label, .payload text))

theorem same_texts (c : Console σ) (messages : List (String × String)) {part : Part}
    (hnever : ∀ e : Event, e.touches part = false) :
    part.Same c.state (c.run (texts messages)).state := by
  induction messages generalizing c with
  | nil =>
      cases part with
      | run => exact ⟨rfl, rfl⟩
      | _ => rfl
  | cons head rest ih =>
      obtain ⟨label, text⟩ := head
      exact (c.same_handlePayload label text hnever).trans (ih _)

theorem sink_texts (c : Console σ) (messages : List (String × String)) :
    ∃ n, (c.run (texts messages)).sink =
      offerAll c.sink (List.replicate n .getServerStatus) := by
  induction messages generalizing c with
  | nil => exact ⟨0, rfl⟩
  | cons head rest ih =>
      obtain ⟨label, text⟩ := head
      obtain ⟨n, hfirst⟩ := c.sink_handlePayload label text
      obtain ⟨k, hrest⟩ := ih (c.handlePayload label text)
      refine ⟨n + k, hrest.trans ?_⟩
      rw [hfirst, ← List.replicate_append_replicate]
      exact List.foldl_append.symm

/-- **The footprint of what the backend sends.** An event changes nothing outside of its footprint, and
    no event has the next test, the connectivity or the mode in it. The sink is offered nothing, but for
    one request for the status of the servers after a message about a lifecycle if the sink is connected;
    this holds of sinks of every kind, also of one that keeps all that it is offered. So whatever texts
    come, nothing is started or stopped by them, and the next test stays as it was. -/
theorem handleEvent_footprint (c : Console σ) :
    (∀ label (e : Event) (part : Part), e.touches part = false →
      part.Same c.state (c.handleEvent label e).state) ∧
    (∀ label e, (c.handleEvent label e).sink = offerAll c.sink
      (if e.asksForStatus ∧ CommandSink.isConnected c.sink then [.getServerStatus] else [])) ∧
    ∀ messages,
      let after := c.run (texts messages)
      (after.state.request = c.state.request ∧ after.state.session.mode = c.state.session.mode ∧
        after.state.connectivity = c.state.connectivity) ∧
      ∃ n, after.sink = offerAll c.sink (List.replicate n .getServerStatus) := by
  refine ⟨fun label e part h => c.same_handleEvent label h, c.sink_handleEvent, ?_⟩
  intro messages after
  have hrequest : Part.request.Same c.state after.state := c.same_texts messages (fun _ => rfl)
  have hmode : Part.mode.Same c.state after.state := c.same_texts messages (fun _ => rfl)
  have hlink : Part.connectivity.Same c.state after.state := c.same_texts messages (fun _ => rfl)
  exact ⟨⟨hrequest, hmode, hlink⟩, c.sink_texts messages⟩

theorem handleEvent_footprint_lifecycle :
    let up : Link.Handle := { state := .connected, outbox := some {} }
    let c := Console.new {} up
    let after := c.handleEvent "12:00:00" (.serverLifecycle .iperf .started none)
    after.state.session.status = c.state.session.status ∧
      after.state.sweep = c.state.sweep ∧
      after.sink.outbox = some { queued := [.getServerStatus] } := by
  intro up c after
  obtain ⟨hsame, hsink, -⟩ := handleEvent_footprint c
  have hrun := hsame "12:00:00" (.serverLifecycle .iperf .started none) .run rfl
  have hsweep := hsame "12:00:00" (.serverLifecycle .iperf .started none) .sweep rfl
  refine ⟨hrun.1, hsweep, ?_⟩
  rw [show after.sink = _ from hsink "12:00:00" (.serverLifecycle .iperf .started none)]
  rfl

end Console

end NetGauge
