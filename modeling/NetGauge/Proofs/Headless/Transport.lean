import NetGauge.Proofs.Headless.Launch
import NetGauge.Proofs.Link.Inbound

set_option autoImplicit false

/-! # When the link fails a run

The notification of a connection is queued, and the link may be gone again by the time it is read. A run
that has been launched does not mind: from then on it fails only by an error that the backend reports or
by a closed channel (`Headless.Reported`). A run that has not been launched is launched at its first
connection and gets no second chance: it fails, and does not wait for the next connection, exactly if
the sink refuses the command that launches it (`driveThrough_transport`). -/

namespace NetGauge

open Link (Inbound)

namespace Headless

variable {σ : Type}

/-- The notification of a turn, if there is one. -/
def Turn.message? (t : Turn σ) : Option Inbound :=
  match t.arrival with
  | .message m => some m
  | .interrupt | .closed => none

theorem Turn.arrival_of_message? {t : Turn σ} {m : Inbound} (h : t.message? = some m) :
    t.arrival = .message m := by
  unfold Turn.message? at h
  split at h
  · next harrival => rw [harrival, Option.some.inj h]
  · cases h
  · cases h

/-- A run failed because a command did not get to the link. -/
def RunError.isTransport (e : RunError) : Bool := e.rejection?.any Rejection.isTransport

/-- A failure that was told to the run: the channel closed, or a message was an error of the backend. -/
def Reported (turns : List (Turn σ)) (e : RunError) : Prop :=
  e = .linkStopped ∨ ∃ message, e = .backend message ∧
    ∃ t ∈ turns, ∃ text, t.arrival = .message (.payload text) ∧
      Event.decode text = .ok (.error message)

theorem Reported.not_transport {turns : List (Turn σ)} {e : RunError} (h : Reported turns e) :
    e.isTransport = false := by
  rcases h with rfl | ⟨_, rfl, -⟩ <;> rfl

theorem Reported.mono {xs ys : List (Turn σ)} {e : RunError} (h : Reported xs e) (hsub : xs ⊆ ys) :
    Reported ys e :=
  h.imp_right fun ⟨message, he, t, ht, rest⟩ => ⟨message, he, t, hsub ht, rest⟩

/-- What an event makes of a run, if it ends it with a failure. -/
theorem eq_error_of_verdict {r : Run σ} {event : Event} {e : RunError}
    (h : verdict r event = .ended (.error e)) : ∃ message, event = .error message ∧ e = .backend message := by
  unfold verdict at h
  split at h
  · split at h
    · next message => cases h; exact ⟨message, rfl, rfl⟩
    · split at h <;> cases h
  · cases h

variable [CommandSink σ]

/-! ## A run that has been launched -/

section

variable {r s : Run σ} {t : Turn σ} {e : RunError}

theorem onConnected_of_launched (hlaunched : r.launched = true) (label : String) (amid : σ → σ) :
    onConnected r label amid =
      (.goOn, { r with console := r.console.onConnected label }.drift amid) := if_pos hlaunched

theorem launched_onPayload (r : Run σ) (label text : String) :
    (onPayload r label text).2.launched = r.launched := by
  unfold onPayload
  cases Event.decode text <;> rfl

/-- Nothing takes a launch back. -/
theorem launched_of_goOn (hlaunched : r.launched = true) (hstep : step r t = (.goOn, s)) :
    s.launched = true := by
  simp only [step] at hstep
  -- The arrivals in the order of `step`; the last two end a run.
  split at hstep
  · rw [onConnected_of_launched (r := r.drift t.meanwhile) hlaunched] at hstep
    cases hstep
    exact hlaunched
  · cases hstep
    exact hlaunched
  · next text _ =>
      have hkeeps := launched_onPayload (r.drift t.meanwhile) t.label text
      rw [hstep] at hkeeps
      exact hkeeps.trans hlaunched
  · unfold onInterrupt at hstep
    split at hstep <;> cases hstep
  · cases hstep

/-- What ends a run that has been launched with a failure was told to it. -/
theorem reported_of_ended (hlaunched : r.launched = true)
    (hstep : step r t = (.ended (.error e), s)) : Reported [t] e := by
  simp only [step] at hstep
  -- Again in the order of `step`: a text and a closed channel are left, an interrupt is no failure.
  split at hstep
  · rw [onConnected_of_launched (r := r.drift t.meanwhile) hlaunched] at hstep
    cases hstep
  · cases hstep
  · next text harrival =>
      unfold onPayload at hstep
      cases hdecode : Event.decode text with
      | error _ => rw [hdecode] at hstep; cases hstep
      | ok event =>
          rw [hdecode] at hstep
          obtain ⟨message, rfl, he⟩ := eq_error_of_verdict (congrArg Prod.fst hstep)
          exact .inr ⟨message, he, t, List.mem_singleton_self t, text, harrival, hdecode⟩
  · unfold onInterrupt at hstep
    split at hstep <;> cases hstep
  · cases hstep
    exact .inl rfl

/-- **A run that has been launched fails only by what it is told,** whatever becomes of the sink. -/
theorem reported_of_launched {turns : List (Turn σ)} (hlaunched : r.launched = true)
    (herror : (driveThrough r turns).1 = .error e) : Reported turns e := by
  induction turns generalizing r with
  | nil => cases herror; exact .inl rfl
  | cons t rest ih =>
      rcases hstep : step r t with ⟨_ | outcome, s⟩
      · rw [driveThrough_of_goOn hstep] at herror
        exact (ih (launched_of_goOn hlaunched hstep) herror).mono (List.subset_cons_self t rest)
      · rw [driveThrough_of_ended hstep] at herror
        obtain rfl : outcome = .error e := herror
        exact (reported_of_ended hlaunched hstep).mono (by simp)

end

/-! ## A run that has not been launched -/

section

variable {r : Run σ} {command : Command} {t : Turn σ}

/-- Without a message a run ends at once, and fails only if the channel is closed. -/
theorem ended_of_message?_eq_none (r : Run σ) (hnone : t.message? = none) :
    ∃ outcome s, step r t = (.ended outcome, s) ∧ ∀ e, outcome = .error e → Reported [t] e := by
  unfold Turn.message? at hnone
  split at hnone
  · cases hnone
  · next harrival =>
      refine ⟨.ok (), (onInterrupt (r.drift t.meanwhile) t.label).2, ?_, nofun⟩
      simp only [step, harrival, onInterrupt]
      split <;> rfl
  · next harrival =>
      refine ⟨.error .linkStopped, r.drift t.meanwhile, ?_, fun e he => .inl (Except.error.inj he).symm⟩
      simp only [step, harrival]

/-- The first notification that a supervisor sends is of a connection. -/
theorem eq_connected_of_prefix {heard : List (List String)} {m : Inbound} {later : List Inbound}
    (h : m :: later <+: Link.blocks heard) : m = .connected := by
  unfold Link.blocks at h
  cases hheard : heard.reverse with
  | nil =>
      rw [hheard] at h
      cases List.prefix_nil.1 h
  | cons texts older =>
      rw [hheard, List.flatMap_cons] at h
      exact (List.cons_prefix_cons.1 h).1

/-- The first turn brings a connection, and the sink refuses the command that launches the run. -/
def Refused (command : Command) (r : Run σ) (turns : List (Turn σ)) : Prop :=
  ∃ t rest rejection, turns = t :: rest ∧ t.arrival = .message .connected ∧
    Console.answer command (t.sinkAtLaunch r) = .error rejection

/-- The launch at a first connection decides whether the run can still fail because of the link. -/
theorem Fresh.refused_or_reported_of_connected (h : Fresh r command)
    (harrival : t.arrival = .message .connected) (rest : List (Turn σ)) :
    (Refused command r (t :: rest) ∧
        ∃ e, (driveThrough r (t :: rest)).1 = .error e ∧ e.isTransport = true) ∨
      (¬Refused command r (t :: rest) ∧
        ∀ e, (driveThrough r (t :: rest)).1 = .error e → Reported (t :: rest) e) := by
  have hlaunch := h.step_connected harrival
  cases hanswer : Console.answer command (t.sinkAtLaunch r) with
  | ok _ =>
      rw [hanswer] at hlaunch
      obtain ⟨s, hstep, hlaunched, -⟩ := hlaunch
      refine .inr ⟨?_, ?_⟩
      · rintro ⟨_, _, _, hsame, -, hrefused⟩
        cases hsame
        rw [hanswer] at hrefused
        cases hrefused
      · intro e herror
        rw [driveThrough_of_goOn hstep] at herror
        exact (reported_of_launched hlaunched herror).mono (List.subset_cons_self t rest)
  | error rejection =>
      rw [hanswer] at hlaunch
      obtain ⟨e, s, hstep, hrejection⟩ := hlaunch
      have hrefused : Refused command r (t :: rest) := ⟨t, rest, rejection, rfl, harrival, hanswer⟩
      refine .inl ⟨hrefused, e, ?_, ?_⟩
      · rw [driveThrough_of_ended hstep]
      · rw [RunError.isTransport, hrejection]
        exact Console.isTransport_of_answer hanswer

/-- A run that waits for its first connection fails for want of a launch, or by what it is told. -/
theorem Fresh.refused_or_reported (h : Fresh r command) {heard : List (List String)}
    {turns : List (Turn σ)} (htold : turns.filterMap Turn.message? <+: Link.blocks heard) :
    (Refused command r turns ∧ ∃ e, (driveThrough r turns).1 = .error e ∧ e.isTransport = true) ∨
      (¬Refused command r turns ∧ ∀ e, (driveThrough r turns).1 = .error e → Reported turns e) := by
  cases turns with
  | nil =>
      refine .inr ⟨nofun, ?_⟩
      intro e herror
      cases herror
      exact .inl rfl
  | cons t rest =>
      rw [List.filterMap_cons] at htold
      cases hmessage : t.message? with
      | some m =>
          -- Nothing is told before the first connection.
          rw [hmessage] at htold
          obtain rfl := eq_connected_of_prefix htold
          exact h.refused_or_reported_of_connected (Turn.arrival_of_message? hmessage) rest
      | none =>
          -- An interrupt or a closed channel: the run ends before it is launched.
          obtain ⟨outcome, s, hstep, hreported⟩ := ended_of_message?_eq_none r hmessage
          refine .inr ⟨?_, ?_⟩
          · rintro ⟨_, _, _, hsame, harrival, -⟩
            cases hsame
            rw [Turn.message?, harrival] at hmessage
            cases hmessage
          · intro e herror
            rw [driveThrough_of_ended hstep] at herror
            exact (hreported e herror).mono (by simp)

end

/-- **Which state of the link fails a run.** Let a request and a mode give a command that launches a run,
    and let the run be told what a supervisor tells, whatever becomes of the sink in between. Then the
    run fails because of the link exactly if it is told of a first connection and the sink refuses the
    command that launches the run; and otherwise it fails only by an error that the backend reports or
    by a closed channel. -/
theorem driveThrough_transport {config : ClientConfig} (sink : σ) {command : Command}
    (hcommand : launchCommand? config.test config.mode = some command)
    {steps : List Link.Step} {s : Link.Supervisor} (hrun : ({} : Link.Supervisor).run? steps = some s)
    {turns : List (Turn σ)} (hread : turns.filterMap Turn.message? <+: s.inbound) :
    let r : Run σ := ⟨.new config sink, false⟩
    let outcome := (driveThrough r turns).1
    ((∃ e, outcome = .error e ∧ e.isTransport = true) ↔ Refused command r turns) ∧
      ∀ e, outcome = .error e → e.isTransport = true ∨ Reported turns e := by
  intro r outcome
  have hfresh : Fresh r command := ⟨rfl, rfl, hcommand⟩
  obtain ⟨-, htold⟩ := Link.Supervisor.run_told Link.Supervisor.shown_new Link.Supervisor.told_new hrun
  have hblocks : turns.filterMap Turn.message? <+: Link.blocks (Link.heard steps) := by
    rw [htold.eq] at hread
    exact hread.trans (s.stage.toldOfAll_isPrefix _)
  rcases hfresh.refused_or_reported hblocks with
    ⟨hrefused, e, herror, htransport⟩ | ⟨hnot, hreported⟩
  · refine ⟨⟨fun _ => hrefused, fun _ => ⟨e, herror, htransport⟩⟩, fun e' herror' => .inl ?_⟩
    obtain rfl := Except.error.inj (herror.symm.trans herror')
    exact htransport
  · refine ⟨⟨?_, fun hrefused => absurd hrefused hnot⟩, fun e herror => .inr (hreported e herror)⟩
    rintro ⟨e, herror, htransport⟩
    rw [(hreported e herror).not_transport] at htransport
    cases htransport

/-- Two connections, the first of which breaks. -/
def twoConnections : List Link.Step :=
  [.connectSucceeded, .proceeded, .proceeded, .proceeded, .readFailed, .proceeded, .proceeded,
    .proceeded, .proceeded, .delayPassed, .connectSucceeded, .proceeded, .proceeded, .proceeded]

/-- The link holds until the run is launched, and is never seen up again. -/
def briefLink : List (Turn Link.Handle) :=
  [{ label := "1", arrival := .message .connected },
    { label := "2", arrival := .message .disconnected, meanwhile := fun _ => {} },
    { label := "3", arrival := .message .connected },
    { label := "4", arrival := .interrupt }]

theorem driveThrough_transport_briefLink :
    let up : Link.Handle := { state := .connected, outbox := some {} }
    ¬∃ e, (driveThrough (⟨.new {} up, false⟩ : Run Link.Handle) briefLink).1 = .error e ∧
      e.isTransport = true := by
  intro up
  obtain ⟨s, hrun, hinbound⟩ : ∃ s, ({} : Link.Supervisor).run? twoConnections = some s ∧
      s.inbound = [.connected, .disconnected, .connected] := ⟨_, rfl, rfl⟩
  have hread : briefLink.filterMap Turn.message? <+: s.inbound := by
    rw [hinbound]
    exact List.prefix_rfl
  have hcommand : launchCommand? ({} : ClientConfig).test ({} : ClientConfig).mode =
      some (.startThroughput ⟨"127.0.0.1", 10, 5201, false, none⟩) := rfl
  obtain ⟨hiff, -⟩ := driveThrough_transport up hcommand hrun hread
  rw [hiff]
  rintro ⟨t, rest, rejection, hsame, -, hrefused⟩
  cases hsame
  rw [Turn.sinkAtLaunch, Console.sink_onConnected] at hrefused
  cases hrefused

/-- A connection that breaks as soon as it is there. -/
def droppedAtOnce : List Link.Step :=
  [.connectSucceeded, .proceeded, .proceeded, .proceeded, .readFailed, .proceeded, .proceeded,
    .proceeded]

/-- A run that is told of a connection which is over by then fails, though it has waited for nothing
    but a connection. -/
theorem drive_droppedAtOnce :
    launchCommand? ({} : ClientConfig).test ({} : ClientConfig).mode =
        some (.startThroughput ⟨"127.0.0.1", 10, 5201, false, none⟩) ∧
      ∃ s, ({} : Link.Supervisor).run? droppedAtOnce = some s ∧ s.inbound = [.connected] ∧
        ∃ e, (drive "12:00:00" ⟨.new {} s.handle, false⟩ (s.inbound.map .message ++ [.interrupt])).1 =
          .error e ∧ e.isTransport = true := by
  refine ⟨rfl, ?_⟩
  obtain ⟨s, hrun, hinbound, hslot⟩ : ∃ s, ({} : Link.Supervisor).run? droppedAtOnce = some s ∧
      s.inbound = [.connected] ∧ s.handle = {} := ⟨_, rfl, rfl, rfl⟩
  refine ⟨s, hrun, hinbound, .startTest .throughputTcp .notConnected, ?_, rfl⟩
  rw [hinbound, hslot]
  rfl

end Headless

end NetGauge
