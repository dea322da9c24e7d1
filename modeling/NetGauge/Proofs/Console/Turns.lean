import NetGauge.Proofs.Console.Session

set_option autoImplicit false

/-! # Tests take turns

What the sink took over a whole run, command by command: tests were started in generator mode while
none was in progress, servers were controlled in listener mode, and only a test in progress was
stopped (`Intent.guard_of_allowed`). Between two starts the backend has told that a run ended: a start
leaves the session busy, and of all changes only the end of a run, or a reset, can make a busy
session idle again (`idle_of_apply`).

A reset is the one change that no run of the backend stands behind. Runs are therefore looked at in
which a reset is only made while no test is in progress (`Console.ResetsWhenIdle`), as the dashboard
makes it. -/

namespace NetGauge

/-! ## The guard of every command -/

namespace TestRequest

/-- The start command of a request starts a test. -/
theorem startsTest_startCommand {r : TestRequest} {command : Command}
    (h : r.startCommand = .ok command) : command.startsTest = true := by
  unfold startCommand at h
  split at h
  · cases h
  · unfold TestRequest.command at h
    split at h
    -- Only a sweep can still be refused here, for want of sizes.
    case h_5 =>
      split at h
      · cases h
      · cases h; rfl
    all_goals cases h; rfl

/-- A request for a sweep is a command with its sizes, and no other request is a command for a sweep. -/
theorem sizes?_of_startCommand {r : TestRequest} {command : Command}
    (h : r.startCommand = .ok command) :
    command.sizes? = if r.kind.isSweep then some r.msgSizes else none := by
  unfold startCommand at h
  split at h
  · cases h
  · unfold TestRequest.command at h
    split at h
    case h_5 hkind =>
      split at h
      · cases h
      · cases h
        rw [hkind]
        rfl
    all_goals
      next hkind =>
        cases h
        rw [hkind]
        rfl

end TestRequest

/-- A start that is allowed is a command with sizes exactly if the request is for a sweep. -/
theorem Intent.sizes?_of_allowed {request : TestRequest} {session : Session} {command : Command}
    (h : Intent.startTest.allowed request session = .ok command) :
    command.sizes? = if request.kind.isSweep then some request.msgSizes else none :=
  TestRequest.sizes?_of_startCommand ((allowed_startTest_eq_ok_iff _ _ _).1 h).2

namespace Command

/-- What starts a sweep starts a test. -/
theorem startsTest_of_sizes? {command : Command} {sizes : List UInt32}
    (h : command.sizes? = some sizes) : command.startsTest = true := by
  cases command <;> first | rfl | cases h

/-- A command that starts a test is of no other sort. -/
theorem of_startsTest {command : Command} (h : command.startsTest = true) :
    command.controlsServer = false ∧ command.stopsTest = false := by
  cases command <;> first | exact ⟨rfl, rfl⟩ | cases h

/-- What a stop sends is of no other sort. -/
theorem sort_stop (tool : Tool) :
    (stop tool).startsTest = false ∧ (stop tool).controlsServer = false := by
  cases tool <;> exact ⟨rfl, rfl⟩

end Command

/-- What must hold when a command is sent for an intent, by the sort of the command. -/
structure Intent.Guard (intent : Intent) (session : Session) (command : Command) : Prop where
  /-- Tests are started on request only, in generator mode, while none is in progress. -/
  start : command.startsTest = true →
    intent = .startTest ∧ session.mode = .generator ∧ session.status = .idle
  /-- Servers are started and stopped in listener mode. -/
  server : command.controlsServer = true → session.mode = .listener
  /-- There is a test in progress to stop. -/
  stop : command.stopsTest = true → session.status ≠ .idle

/-- No command is allowed outside its mode or out of turn. -/
theorem Intent.guard_of_allowed {intent : Intent} {request : TestRequest} {session : Session}
    {command : Command} (h : intent.allowed request session = .ok command) :
    intent.Guard session command := by
  cases intent with
  | startTest =>
      obtain ⟨hcan, hstart⟩ := (allowed_startTest_eq_ok_iff _ _ _).1 h
      obtain ⟨hserver, hstop⟩ := Command.of_startsTest (TestRequest.startsTest_startCommand hstart)
      refine ⟨fun _ => ⟨rfl, session.checkCanStart_eq_ok_iff.1 hcan⟩, fun hs => ?_, fun hs => ?_⟩
      · rw [hserver] at hs; cases hs
      · rw [hstop] at hs; cases hs
  | stopTest =>
      obtain ⟨test, htarget, rfl⟩ := (allowed_stopTest_eq_ok_iff _ _ _).1 h
      obtain ⟨hstart, hserver⟩ := Command.sort_stop test.tool
      refine ⟨fun hs => ?_, fun hs => ?_, fun _ => ((session.stopTarget_eq_ok_iff test).1 htarget).1⟩
      · rw [TestKind.stopCommand, hstart] at hs; cases hs
      · rw [TestKind.stopCommand, hserver] at hs; cases hs
  | startServer server =>
      obtain ⟨hlistener, rfl⟩ := (allowed_startServer_eq_ok_iff _ _ _ _).1 h
      exact ⟨nofun, fun _ => session.checkListener_eq_ok_iff.1 hlistener, nofun⟩
  | stopServer server =>
      obtain ⟨hlistener, rfl⟩ := (allowed_stopServer_eq_ok_iff _ _ _ _).1 h
      exact ⟨nofun, fun _ => session.checkListener_eq_ok_iff.1 hlistener, nofun⟩
  | refreshServerStatus => cases h; exact ⟨nofun, nofun, nofun⟩
  | requestStats => cases h; exact ⟨nofun, nofun, nofun⟩

/-! ## When a session turns busy and when it turns idle -/

section

variable {s : ClientState} {change : Change}

/-- A start leaves the session busy. -/
theorem busy_of_start {intent : Intent} {label : String} {command : Command}
    (hallowed : (Change.sent intent label command).Allowed s) (hstarts : command.startsTest = true) :
    ((Change.sent intent label command).apply s).session.status ≠ .idle := by
  obtain ⟨rfl, -⟩ := (Intent.guard_of_allowed hallowed).start hstarts
  obtain ⟨-, hsession⟩ := Console.begin_of_sent hallowed label
  rw [Change.apply, hsession]
  nofun

/-- The end of a run, as the backend tells it. -/
def Change.EndsRun (change : Change) : Prop :=
  ∃ label e, change = .dispatched label e ∧ e.isTerminal = true

/-- A command that went out leaves a busy session busy. -/
theorem busy_applySent {intent : Intent} {command : Command}
    (hallowed : intent.allowed s.request s.session = .ok command) (label : String)
    (hbusy : s.session.status ≠ .idle) :
    (Console.applySent s label intent).session.status ≠ .idle := by
  cases intent with
  | startTest =>
      -- A start is allowed only in an idle session.
      obtain ⟨hcan, -⟩ := (Intent.allowed_startTest_eq_ok_iff _ _ _).1 hallowed
      exact absurd (s.session.checkCanStart_eq_ok_iff.1 hcan).2 hbusy
  | stopTest =>
      obtain ⟨_, -, hsession⟩ := Console.requestStop_of_sent hallowed label
      rw [hsession]
      nofun
  | startServer _ | stopServer _ | refreshServerStatus | requestStats =>
      have hsession := Console.session_applySent s label
      simp only [hsession]
      exact hbusy

/-- Only the end of a run, or a reset, makes a busy session idle. -/
theorem idle_of_apply (hallowed : change.Allowed s) (hbusy : s.session.status ≠ .idle)
    (hidle : (change.apply s).session.status = .idle) : change.EndsRun ∨ change = .reset := by
  cases change with
  | noted label level message => exact absurd hidle (by rwa [Change.apply, ClientState.session_note])
  | sent intent label command => exact absurd hidle (busy_applySent hallowed label hbusy)
  | dispatched label e =>
      left
      refine ⟨label, e, rfl, ?_⟩
      -- An event that ends no run announces a sweep or leaves the session alone.
      by_cases hends : e.isTerminal = true
      · exact hends
      · exfalso
        have hsession := s.session_dispatch label e
        rw [if_neg hends] at hsession
        apply hbusy
        rw [Change.apply, hsession] at hidle
        split at hidle
        · cases hidle
        · exact hidle
  | linked connectivity => exact absurd hidle hbusy
  | modeSet mode => exact absurd hidle hbusy
  -- The selection cannot be edited at all while the session is busy.
  | edited edit => exact absurd hallowed hbusy
  | reset => exact .inr rfl

end

/-! ## Along a history -/

/-- A reset comes only while no test is in progress. -/
def Change.Timely (s : ClientState) (change : Change) : Prop :=
  change = .reset → s.session.status = .idle

section

variable {s t : ClientState} {changes : List Change}

/-- A busy session stays busy until the backend tells of the end of a run, unless it is reset. -/
theorem busy_of_path (hpath : Path s changes t) (hresets : Throughout Change.Timely s changes)
    (hbusy : s.session.status ≠ .idle) (hends : ∀ change ∈ changes, ¬ change.EndsRun) :
    t.session.status ≠ .idle := by
  induction hpath with
  | nil _ => exact hbusy
  | cons hallowed _ ih =>
      refine ih hresets.2 ?_ (fun x hx => hends x (List.mem_cons_of_mem _ hx))
      intro hidle
      rcases idle_of_apply hallowed hbusy hidle with hend | hreset
      · exact hends _ List.mem_cons_self hend
      · exact hbusy (hresets.1 hreset)

end

namespace Console

variable {σ : Type} [CommandSink σ]

/-- Among the operations, resets come only while no test is in progress. -/
def ResetsWhenIdle (c : Console σ) : List (String × Operation σ) → Prop
  | [] => True
  | (label, op) :: rest =>
    (op = .reset → c.state.session.status = .idle) ∧ (c.perform label op).ResetsWhenIdle rest

theorem timely_changes (c : Console σ) (label : String) (op : Operation σ)
    (h : op = .reset → c.state.session.status = .idle) :
    Throughout Change.Timely c.state (c.changes label op) := by
  by_cases hop : op = .reset
  · subst hop
    exact ⟨fun _ => h rfl, trivial⟩
  · refine throughout_of_forall ?_
    rintro change hmem s rfl
    -- No other operation makes this change, neither by its plan nor by a submission.
    exfalso
    rcases List.mem_append.1 hmem with hplan | hpursued
    · rcases quiet_plan c.state label c.reconnectDelayMs op _ hplan with hquiet | ⟨hreset, -⟩
      · exact hquiet.2 rfl
      · exact hop hreset
    · cases hintent : (c.plan label op).intent with
      | none => rw [hintent] at hpursued; cases hpursued
      | some intent =>
          rw [hintent] at hpursued
          exact submitted_ne_reset _ label intent (List.mem_singleton.1 hpursued).symm

/-- Operations that reset in time make resets in time. -/
theorem timely_history (c : Console σ) (ops : List (String × Operation σ))
    (h : c.ResetsWhenIdle ops) : Throughout Change.Timely c.state (c.history ops) := by
  induction ops generalizing c with
  | nil => trivial
  | cons head rest ih =>
      obtain ⟨label, op⟩ := head
      refine (c.timely_changes label op h.1).append ?_
      -- The later operations begin where the changes of this one lead.
      rw [← (c.path_perform label op).eq_after]
      exact ih _ h.2

/-- **Tests take turns.** Over any run of a new console in which resets come only while no test is in
    progress, the sink takes the commands of the history and no others; each of them is sent in its
    mode and in its turn; and between any two that start a test the backend has told of the end of a
    run. -/
theorem run_turns (config : ClientConfig) (sink : σ) (ops : List (String × Operation σ))
    (hresets : (Console.new config sink).ResetsWhenIdle ops) :
    let c := Console.new config sink
    let journaling := (Console.new config ({ sink := sink } : Journal σ)).run (journaled ops)
    (journaling.bare = c.run ops ∧ (c.run ops).state = c.state.after (c.history ops) ∧
      journaling.sink.accepted = (c.history ops).filterMap Change.command?) ∧
    Throughout (fun s change => ∀ intent label command, change = .sent intent label command →
      intent.Guard s.session command) c.state (c.history ops) ∧
    (∀ before between later first label x second label' y,
      c.history ops = before ++ .sent first label x :: between ++ .sent second label' y :: later →
      x.startsTest = true → y.startsTest = true → ∃ change ∈ between, change.EndsRun) := by
  intro c journaling
  have hpath := c.path_run ops
  refine ⟨?_, ?_, ?_⟩
  · obtain ⟨hbare, haccepted⟩ :=
      run_journaled (Console.new config ({ sink := sink } : Journal σ)) ops
    exact ⟨hbare, hpath.eq_after, haccepted⟩
  · refine hpath.throughout ?_
    rintro s _ hallowed intent label command rfl
    exact Intent.guard_of_allowed hallowed
  · intro before between later first label x second label' y hsplit hx hy
    by_cases hends : ∃ change ∈ between, change.EndsRun
    · exact hends
    · exfalso
      have hreset := c.timely_history ops hresets
      rw [hsplit, List.append_assoc] at hpath hreset
      -- The first start leaves the session busy, and it is still busy at the second one.
      cases hpath.split.2 with
      | cons hfirst hrest =>
          obtain ⟨hbetween, hlast⟩ := hrest.split
          have hbusy := busy_of_path hbetween hreset.split.2.2.split.1 (busy_of_start hfirst hx)
            (fun change hmem hend => hends ⟨change, hmem, hend⟩)
          cases hlast with
          | cons hsecond _ => exact hbusy ((Intent.guard_of_allowed hsecond).start hy).2.2

/-- A sink that is always connected and takes every command. -/
structure Willing where

instance : CommandSink Willing where
  isConnected _ := true
  send _ sink := (.ok (), sink)

/-- A test, its end, a reset and another test. -/
def twoTurns : List (String × Operation Willing) :=
  [("1", .submit .startTest), ("2", .event (.testComplete {})), ("3", .reset),
    ("4", .submit .startTest)]

theorem run_turns_twoTurns :
    let start := Command.startThroughput ⟨"127.0.0.1", 10, 5201, false, none⟩
    let c := Console.new {} Willing.mk
    c.ResetsWhenIdle twoTurns ∧
    ((Console.new {} ({ sink := {} } : Journal Willing)).run (journaled twoTurns)).sink.accepted =
      [start, start] ∧
    ∃ change ∈ [Change.dispatched "2" (.testComplete {}), .reset], change.EndsRun := by
  intro start c
  have hresets : c.ResetsWhenIdle twoTurns := ⟨nofun, nofun, fun _ => rfl, nofun, trivial⟩
  obtain ⟨⟨-, -, haccepted⟩, -, hbetween⟩ := run_turns {} Willing.mk twoTurns hresets
  refine ⟨hresets, haccepted.trans rfl, ?_⟩
  exact hbetween [] _ [] .startTest "1" start .startTest "4" start rfl rfl rfl

end Console

end NetGauge
