import NetGauge.Proofs.Console.Turns
import NetGauge.Proofs.Headless.Launch

set_option autoImplicit false

/-! # How a generator run ends

Once launched, a generator run has a test in progress, and stays that way (`Headless.Underway`) until the
backend says that a run ended or that something went wrong. It looks at its session for this, not at the
message, and yet it makes of the messages what the first decisive one among them says
(`Event.decides`): no reconnect, no text that cannot be understood and no sweep that is announced in
between makes a difference, and nothing behind that message is looked at (`drive_outcome`). -/

namespace NetGauge

open Link (Inbound)

variable {σ : Type}

/-- A sink that is connected and takes every command, and goes on doing so. -/
def Console.Obliging [CommandSink σ] (sink : σ) : Prop :=
  ∀ commands, CommandSink.isConnected (offerAll sink commands) = true ∧
    ∀ command, (CommandSink.send command (offerAll sink commands)).1 = .ok ()

theorem Console.Obliging.answer [CommandSink σ] {sink : σ} (h : Obliging sink)
    (commands : List Command) (command : Command) :
    Console.answer command (offerAll sink commands) = .ok () := by
  obtain ⟨hconnected, htakes⟩ := h commands
  rw [Console.answer, if_pos hconnected, htakes]
  rfl

/-- How a generator run ends at an event, if it does. -/
def Event.decides : Event → Option (Except String Unit)
  | .error message => some (.error ("backend reported an error: " ++ message))
  | .testComplete _ | .testStopped _ | .sweepComplete _ => some (.ok ())
  | _ => none

/-- Of all notifications only an event that is understood can end a run. -/
def Link.Inbound.decides : Inbound → Option (Except String Unit)
  | .payload text => (Event.decode text).toOption.bind Event.decides
  | .connected | .disconnected => none

namespace Headless

/-- Notifications, each in its tick. -/
def told (messages : List (String × Inbound)) : List (Turn σ) :=
  messages.map (fun (label, m) => { label := label, arrival := .message m })

theorem told_append (xs ys : List (String × Inbound)) :
    (told (xs ++ ys) : List (Turn σ)) = told xs ++ told ys := List.map_append

/-! ## While a test is in progress -/

/-- A generator run that has been launched and whose test is in progress. -/
structure Underway (r : Run σ) : Prop where
  launched : r.launched = true
  generator : r.console.state.session.mode = .generator
  busy : r.console.state.session.status ≠ .idle

/-- What a generator run makes of an event: errors come first, then the session decides. -/
theorem verdict_of_generator {r : Run σ} (hlaunched : r.launched = true)
    (hmode : r.console.state.session.mode = .generator) (e : Event) :
    verdict r e =
      match e with
      | .error message => .ended (.error (.backend message))
      | _ => if r.console.state.session.isIdle then .ended (.ok ()) else .goOn := by
  cases e <;> exact if_pos ⟨hlaunched, hmode⟩

namespace Underway

variable {r : Run σ}

/-- Only the session matters. -/
theorem of_session (h : Underway r) {c : Console σ}
    (hsession : c.state.session = r.console.state.session) :
    Underway { r with console := c } where
  launched := h.launched
  generator := by rw [hsession]; exact h.generator
  busy := by rw [hsession]; exact h.busy

theorem isIdle_eq_false (h : Underway r) : r.console.state.session.isIdle = false := by
  simpa [Session.isIdle] using h.busy

variable [CommandSink σ]

/-- An event that ends no run leaves the run underway; a sweep that is announced takes the place of the
    test. -/
theorem handleEvent (h : Underway r) (label : String) {e : Event} (hends : e.isTerminal = false) :
    Underway { r with console := r.console.handleEvent label e } := by
  have hsession := r.console.session_handleEvent label e
  rw [hends, if_neg Bool.false_ne_true] at hsession
  split at hsession
  · refine ⟨h.launched, ?_, ?_⟩
    · rw [hsession]; exact h.generator
    · rw [hsession]; nofun
  · exact h.of_session hsession

/-- The end of a run leaves the session idle, which ends the run here too. -/
theorem verdict_of_terminal (h : Underway r) (label : String) {e : Event}
    (hends : e.isTerminal = true) :
    let s : Run σ := { r with console := r.console.handleEvent label e }
    verdict s e = .ended (.ok ()) ∧ s.console.state.session.isIdle = true := by
  intro s
  have hsession : s.console.state.session = r.console.state.session.finish := by
    rw [r.console.session_handleEvent label e, if_pos hends]
  have hidle : s.console.state.session.isIdle = true := by rw [hsession]; rfl
  have hmode : s.console.state.session.mode = .generator := by rw [hsession]; exact h.generator
  refine ⟨?_, hidle⟩
  rw [verdict_of_generator (r := s) h.launched hmode, hidle]
  cases e with
  | testStopped _ | testComplete _ | sweepComplete _ => rfl
  | _ => cases hends

/-- **An event ends a run underway as it says,** or the run goes on and is still underway. -/
theorem event (h : Underway r) (label : String) (e : Event) :
    let s : Run σ := { r with console := r.console.handleEvent label e }
    match e.decides with
    | none => verdict s e = .goOn ∧ Underway s
    | some outcome =>
      ∃ result, verdict s e = .ended result ∧ result.mapError RunError.message = outcome ∧
        (outcome = .ok () → s.console.state.session.isIdle = true) := by
  intro s
  by_cases hends : e.isTerminal = true
  · obtain ⟨hverdict, hidle⟩ := h.verdict_of_terminal label hends
    have hdecides : e.decides = some (.ok ()) := by
      cases e with
      | testStopped _ | testComplete _ | sweepComplete _ => rfl
      | _ => cases hends
    rw [hdecides]
    exact ⟨.ok (), hverdict, rfl, fun _ => hidle⟩
  · have hstill : Underway s := h.handleEvent label (by simpa using hends)
    have hverdict := verdict_of_generator hstill.launched hstill.generator e
    rw [hstill.isIdle_eq_false] at hverdict
    cases e with
    | error message => exact ⟨_, hverdict, rfl, nofun⟩
    | testComplete _ | testStopped _ | sweepComplete _ => exact absurd rfl hends
    | _ => exact ⟨hverdict, hstill⟩

/-- **One notification to a run underway.** -/
theorem step (h : Underway r) (label : String) (m : Inbound) :
    match m.decides with
    | none =>
      ∃ s, Headless.step r { label := label, arrival := .message m } = (.goOn, s) ∧ Underway s
    | some outcome =>
      ∃ result s, Headless.step r { label := label, arrival := .message m } = (.ended result, s) ∧
        result.mapError RunError.message = outcome ∧
        (outcome = .ok () → s.console.state.session.isIdle = true) := by
  cases m with
  | connected =>
      obtain ⟨log, hstate⟩ := r.console.state_onConnected label
      -- The run has been launched, so nothing is launched again.
      refine ⟨{ r with console := r.console.onConnected label }, if_pos h.launched, ?_⟩
      exact h.of_session (by rw [hstate])
  | disconnected =>
      obtain ⟨log, hstate⟩ := r.console.state_onDisconnected label
      exact ⟨{ r with console := r.console.onDisconnected label }, rfl, h.of_session (by rw [hstate])⟩
  | payload text =>
      have hstep : Headless.step r { label := label, arrival := .message (.payload text) } =
        onPayload r label text := rfl
      rw [hstep, onPayload, Inbound.decides]
      cases hdecode : Event.decode text with
      | error err =>
          refine ⟨_, rfl, h.of_session ?_⟩
          simp only [Console.handlePayload, hdecode, Console.record, ClientState.session_note]
      | ok e =>
          have hevent := h.event label e
          simp only [Except.toOption, Option.bind_some]
          cases hdecides : e.decides with
          | none =>
              rw [hdecides] at hevent
              obtain ⟨hverdict, hstill⟩ := hevent
              exact ⟨_, congrArg (fun v => (v, _)) hverdict, hstill⟩
          | some outcome =>
              rw [hdecides] at hevent
              obtain ⟨result, hverdict, hsame, hidle⟩ := hevent
              exact ⟨result, _, congrArg (fun v => (v, _)) hverdict, hsame, hidle⟩

/-! ## Whole runs -/

/-- Notifications that decide nothing leave a run underway. -/
theorem advance (h : Underway r) {messages : List (String × Inbound)}
    (hquiet : ∀ m ∈ messages, m.2.decides = none) :
    ∃ s, advanceThrough r (told messages) = (.goOn, s) ∧ Underway s := by
  induction messages generalizing r with
  | nil => exact ⟨r, rfl, h⟩
  | cons head rest ih =>
      obtain ⟨label, m⟩ := head
      have hstep := h.step label m
      rw [hquiet _ List.mem_cons_self] at hstep
      obtain ⟨s, hgoOn, hstill⟩ := hstep
      obtain ⟨t, hrest, hlast⟩ := ih hstill (fun m hm => hquiet m (List.mem_cons_of_mem _ hm))
      exact ⟨t, (advanceThrough_of_goOn hgoOn _).trans hrest, hlast⟩

/-- A notification that decides ends the run, whatever is queued behind it. -/
theorem stops (h : Underway r) (label : String) {m : Inbound} {outcome : Except String Unit}
    (hdecides : m.decides = some outcome) :
    ∃ result s, result.mapError RunError.message = outcome ∧
      (outcome = .ok () → s.console.state.session.isIdle = true) ∧
      ∀ later, driveThrough r (told ((label, m) :: later)) = (result, s) := by
  have hstep := h.step label m
  rw [hdecides] at hstep
  obtain ⟨result, s, hended, hsame, hidle⟩ := hstep
  exact ⟨result, s, hsame, hidle, fun later => driveThrough_of_ended hended _⟩

/-- **The first decisive notification is how a run underway ends;** without one it lasts until the
    channel closes. -/
theorem drive (h : Underway r) (messages : List (String × Inbound)) :
    let result := driveThrough r (told messages)
    result.1.mapError RunError.message =
        (messages.findSome? (fun m => m.2.decides)).getD
          (.error "connection supervisor stopped unexpectedly") ∧
      (result.1 = .ok () → result.2.console.state.session.isIdle = true) := by
  induction messages generalizing r with
  | nil => exact ⟨rfl, nofun⟩
  | cons head rest ih =>
      obtain ⟨label, m⟩ := head
      rw [List.findSome?_cons]
      cases hdecides : m.decides with
      | none =>
          have hstep := h.step label m
          rw [hdecides] at hstep
          obtain ⟨s, hgoOn, hstill⟩ := hstep
          have hdrive : driveThrough r (told ((label, m) :: rest)) = driveThrough s (told rest) :=
            driveThrough_of_goOn hgoOn _
          rw [hdrive]
          exact ih hstill
      | some outcome =>
          obtain ⟨result, s, hsame, hidle, hdrive⟩ := h.stops label hdecides
          rw [hdrive rest]
          refine ⟨hsame, fun hok => hidle ?_⟩
          rw [← hsame, show result = .ok () from hok]
          rfl

end Underway

section

variable [CommandSink σ] {config : ClientConfig} {sink : σ} {command : Command}

/-- With an obliging sink the first connection launches the test of a generator. -/
theorem underway_of_connected (hmode : config.mode = .generator)
    (hstart : config.test.startCommand = .ok command) (hsink : Console.Obliging sink)
    (label : String) :
    ∃ s, Headless.step ⟨.new config sink, false⟩ { label := label, arrival := .message .connected } =
      (.goOn, s) ∧ Underway s := by
  let r : Run σ := ⟨.new config sink, false⟩
  let t : Turn σ := { label := label, arrival := .message .connected }
  have hcommand : launchCommand? config.test config.mode = some command := by
    rw [hmode, launchCommand?, hstart]
    rfl
  have hfresh : Fresh r command := ⟨rfl, rfl, hcommand⟩
  have hanswer : Console.answer command (t.sinkAtLaunch r) = .ok () := by
    have hoffered := (Console.new config sink).sink_onConnected label
    rw [show t.sinkAtLaunch r = _ from hoffered]
    exact hsink.answer _ command
  have hlaunch := hfresh.step_connected (t := t) rfl
  rw [hanswer] at hlaunch
  obtain ⟨s, hstep, hlaunched, hgenerates⟩ := hlaunch
  obtain ⟨hgenerator, hbusy⟩ := hgenerates hmode
  exact ⟨s, hstep, hlaunched, hgenerator, hbusy⟩

/-- **How a generator run ends.** With a request that can be started and a sink that takes every
    command, a run that is told of a connection first ends as the first decisive notification behind it
    says, with an error of the backend or, idle, with the end of its test; without one it fails when the
    channel closes. Until then the run goes on with a test in progress, and what comes behind the
    decisive notification makes no difference. -/
theorem drive_outcome (hmode : config.mode = .generator)
    (hstart : config.test.startCommand = .ok command) (hsink : Console.Obliging sink)
    (label : String) (messages : List (String × Inbound)) :
    let r : Run σ := ⟨.new config sink, false⟩
    let result := driveThrough r (told ((label, .connected) :: messages))
    (result.1.mapError RunError.message =
        (messages.findSome? (fun m => m.2.decides)).getD
          (.error "connection supervisor stopped unexpectedly") ∧
      (result.1 = .ok () → result.2.console.state.session.isIdle = true)) ∧
    ∀ before rest, messages = before ++ rest → (∀ m ∈ before, m.2.decides = none) →
      (∃ s, advanceThrough r (told ((label, .connected) :: before)) = (.goOn, s) ∧
        s.launched = true ∧ s.console.state.session.isIdle = false) ∧
      ∀ m later, rest = m :: later → m.2.decides.isSome = true →
        result = driveThrough r (told ((label, .connected) :: before ++ [m])) := by
  intro r result
  obtain ⟨s, hgoOn, hunderway⟩ := underway_of_connected hmode hstart hsink label
  have hresult : result = driveThrough s (told messages) := driveThrough_of_goOn hgoOn _
  refine ⟨?_, ?_⟩
  · rw [hresult]
    exact hunderway.drive messages
  · rintro before rest rfl hquiet
    obtain ⟨t, hadvance, hstill⟩ := hunderway.advance hquiet
    refine ⟨⟨t, (advanceThrough_of_goOn hgoOn _).trans hadvance, hstill.launched,
      hstill.isIdle_eq_false⟩, ?_⟩
    rintro ⟨label', m⟩ later rfl hsome
    obtain ⟨outcome, hdecides⟩ := Option.isSome_iff_exists.1 hsome
    obtain ⟨ending, u, -, -, hstops⟩ := hstill.stops label' hdecides
    -- Both runs come to the decisive notification in the same state.
    have hboth : ∀ behind, driveThrough r (told ((label, .connected) :: before ++ (label', m) :: behind)) =
        (ending, u) := by
      intro behind
      rw [← hstops behind, List.cons_append]
      refine (driveThrough_of_goOn hgoOn _).trans ?_
      show driveThrough s (told (before ++ (label', m) :: behind)) = _
      rw [told_append]
      exact driveThrough_append hadvance _
    exact (hboth later).trans (hboth []).symm

end

/-- A connection that is lost and made again, a text that means nothing, a sweep that nobody asked for,
    and the end of the test with an error behind it. -/
def roughLink : List (String × Inbound) :=
  [("2", .disconnected), ("3", .connected), ("4", .payload "junk"),
    ("5", .payload "\x7b\"type\":\"sockperf_multisize_started\"\x7d"),
    ("6", .payload "\x7b\"type\":\"ping_stopped\"\x7d"),
    ("7", .payload "\x7b\"type\":\"error\"\x7d")]

theorem drive_outcome_roughLink :
    let r : Run Console.Willing := ⟨.new {} ⟨⟩, false⟩
    let result := driveThrough r (told (("1", .connected) :: roughLink))
    result.1.mapError RunError.message = .ok () ∧
      result.2.console.state.session.isIdle = true := by
  have hmode : ({} : ClientConfig).mode = .generator := rfl
  have hstart : ({} : ClientConfig).test.startCommand =
      .ok (.startThroughput ⟨"127.0.0.1", 10, 5201, false, none⟩) := rfl
  have hwilling : Console.Obliging Console.Willing.mk := fun _ => ⟨rfl, fun _ => rfl⟩
  obtain ⟨⟨houtcome, hidle⟩, -⟩ := drive_outcome hmode hstart hwilling "1" roughLink
  -- The first decisive notification is the one of the sixth tick.
  have hends : (roughLink.findSome? (fun m => m.2.decides)).any Except.isOk = true := by
    decide +kernel
  obtain ⟨_ | _, hdecides, hok⟩ := (Option.any_eq_true ..).1 hends
  · cases hok
  rw [hdecides, Option.getD_some] at houtcome
  exact ⟨houtcome, hidle (ok_of_mapError houtcome)⟩

end Headless

end NetGauge
