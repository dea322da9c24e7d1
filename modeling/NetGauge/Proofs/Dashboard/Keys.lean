import NetGauge.Dashboard
import NetGauge.Proofs.Console.Footprint
import NetGauge.Proofs.Console.Session
import NetGauge.Storage

set_option autoImplicit false

/-! # What a key may do

A key does one of five things to the console, or none (`Dashboard.Reaction`): it submits the intent that it
stands for, changes the mode, selects a test, clears the run, or tells of an export. All but the first leave
the sink alone, and a submission offers it one command at most (`Reaction.sink`).

None of them disturbs a test in progress. The mode and the selection are locked, the run is not cleared,
another test is not started, and the commands for the servers touch nothing but the log; what is left is the
stop of the test itself (`Reaction.of_busy`). While no test is in progress only a start can put one there
(`Reaction.of_idle`). -/

namespace NetGauge

open Link (Handle)

/-- Of the intents, only the start and the stop of a test touch more than the log. -/
theorem Intent.touches_eq_false {intent : Intent} (hstart : intent ≠ .startTest)
    (hstop : intent ≠ .stopTest) {part : Part} (hpart : part ≠ .log) : intent.touches part = false := by
  cases intent with
  | startTest => exact absurd rfl hstart
  | stopTest => exact absurd rfl hstop
  | _ =>
      cases part with
      | log => exact absurd rfl hpart
      | _ => rfl

namespace Console

variable {σ : Type} [CommandSink σ] {c : Console σ} {label : String}

/-- While a test is in progress a start is refused. -/
theorem same_start_of_busy (hbusy : c.state.session.status ≠ .idle) {part : Part} (hpart : part ≠ .log) :
    part.Same c.state (c.submit .startTest label).2.state := by
  have hsub := c.submission .startTest label
  generalize c.submit .startTest label = result at hsub ⊢
  cases hsub with
  | sent command sink henc hsend =>
      obtain ⟨hallowed, -⟩ := (Intent.encode_eq_ok_iff _ _ _ _ _).1 henc
      obtain ⟨hcan, -⟩ := (Intent.allowed_startTest_eq_ok_iff _ _ _).1 hallowed
      exact absurd (c.state.session.checkCanStart_eq_ok_iff.1 hcan).2 hbusy
  | refused command e sink henc hsend => exact Part.same_log _ hpart
  | rejected r henc => exact Part.same_log _ hpart

/-- A stop is accepted only while a test is in progress, and leaves the session waiting for its end. -/
theorem session_stop (c : Console σ) (label : String) :
    (c.state.session.status ≠ .idle ∧ (c.submit .stopTest label).1 = .ok () ∧
      (c.submit .stopTest label).2.state.session = { c.state.session with status := .stopping }) ∨
    (c.submit .stopTest label).2.state.session = c.state.session := by
  have hsub := c.submission .stopTest label
  generalize c.submit .stopTest label = result at hsub ⊢
  cases hsub with
  | sent command sink henc hsend =>
      obtain ⟨hallowed, -⟩ := (Intent.encode_eq_ok_iff _ _ _ _ _).1 henc
      obtain ⟨test, htarget, -⟩ := (Intent.allowed_stopTest_eq_ok_iff _ _ _).1 hallowed
      obtain ⟨-, -, hsession⟩ := requestStop_of_sent hallowed label
      exact .inl ⟨((c.state.session.stopTarget_eq_ok_iff test).1 htarget).1, rfl, hsession⟩
  | refused command e sink henc hsend => exact .inr (ClientState.session_note _ _ _ _)
  | rejected r henc => exact .inr (ClientState.session_note _ _ _ _)

end Console

/-! ## Keys that stand for an intent -/

theorem Dashboard.toggle_ne (s : ClientState) (server : Server) :
    toggle s server ≠ .startTest ∧ toggle s server ≠ .stopTest := by
  cases server <;> unfold toggle <;> dsimp only <;> split <;> exact ⟨nofun, nofun⟩

namespace Key

/-- The intent that a key stands for. -/
def intent? (s : ClientState) : Key → Option Intent
  | .char 's' => some .startTest
  | .char 'x' => some .stopTest
  | .char 't' => some (Dashboard.toggle s .throughput)
  | .char 'l' => some (Dashboard.toggle s .latency)
  | .char 'r' => some .refreshServerStatus
  | .char 'g' => some .requestStats
  | _ => none

/-- The keys that stand for an intent. -/
def commanding : List Key := [.char 's', .char 'x', .char 't', .char 'l', .char 'r', .char 'g']

variable {s : ClientState} {key : Key} {intent : Intent}

/-- Which keys stand for an intent, and which of them for the start and the stop of a test. -/
theorem of_intent? (h : key.intent? s = some intent) :
    key ∈ commanding ∧ (intent = .startTest → key = .char 's') ∧
      (intent = .stopTest → key = .char 'x') := by
  unfold intent? at h
  split at h
  · cases h; exact ⟨by decide, fun _ => rfl, nofun⟩
  · cases h; exact ⟨by decide, nofun, fun _ => rfl⟩
  · cases h
    obtain ⟨hstart, hstop⟩ := Dashboard.toggle_ne s .throughput
    exact ⟨by decide, fun hsame => absurd hsame hstart, fun hsame => absurd hsame hstop⟩
  · cases h
    obtain ⟨hstart, hstop⟩ := Dashboard.toggle_ne s .latency
    exact ⟨by decide, fun hsame => absurd hsame hstart, fun hsame => absurd hsame hstop⟩
  · cases h; exact ⟨by decide, nofun, nofun⟩
  · cases h; exact ⟨by decide, nofun, nofun⟩
  · cases h

end Key

namespace Dashboard

/-! ## What a key does to the sink -/

/-- The command that a key hands to the sink, if there is one. -/
def handed (c : Console Handle) (key : Key) : List Command :=
  ((key.intent? c.state).bind fun intent =>
    (intent.encode c.state.request c.state.session (CommandSink.isConnected c.sink)).toOption).toList

theorem length_handed (c : Console Handle) (key : Key) : (handed c key).length ≤ 1 := by
  rw [handed, Option.length_toList]
  split <;> decide

theorem commanding_of_handed {c : Console Handle} {key : Key} (h : handed c key ≠ []) :
    key ∈ Key.commanding := by
  cases hintent : key.intent? c.state with
  | some intent => exact (Key.of_intent? hintent).1
  | none => exact absurd (by rw [handed, hintent]; rfl) h

theorem handed_of_none {c : Console Handle} {key : Key} (h : key.intent? c.state = none) :
    handed c key = [] := by
  rw [handed, h]
  rfl

section

variable {σ : Type} (c : Console σ) (label : String)

theorem sink_setMode (mode : Mode) : (c.setMode label mode).2.sink = c.sink := by
  unfold Console.setMode
  cases c.state.session.setMode mode <;> simp only [Console.record]

theorem sink_selectTest (kind : TestKind) : (c.selectTest label kind).2.sink = c.sink := by
  unfold Console.selectTest Console.configure
  cases c.state.session.checkReconfigure <;> simp only [Console.record]

theorem status_setMode (mode : Mode) :
    (c.setMode label mode).2.state.session.status = c.state.session.status := by
  unfold Console.setMode
  cases hset : c.state.session.setMode mode with
  | ok session =>
      obtain ⟨-, rfl⟩ := (Session.setMode_eq_ok_iff _ session mode).1 hset
      simp only [Console.record, ClientState.note]
  | error e => simp only [Console.record, ClientState.note]

theorem session_selectTest (kind : TestKind) :
    (c.selectTest label kind).2.state.session = c.state.session := by
  unfold Console.selectTest Console.configure
  cases c.state.session.checkReconfigure <;> simp only [Console.record, ClientState.note]

end

theorem sink_clear (c : Console Handle) (label : String) : (clear label c).sink = c.sink := by
  unfold clear
  split <;> simp only [Console.record, Console.reset]

/-- Clearing while no test is in progress. -/
theorem clear_of_idle (label : String) {c : Console Handle} (hidle : c.state.session.status = .idle) :
    clear label c = c.reset.record label .info "Cleared run data" := by
  have hfree : c.state.session.isIdle = true := by rw [Session.isIdle, hidle]; rfl
  rw [clear, if_pos hfree]

/-! ## What a key does -/

/-- What becomes of a console when a key is pressed. -/
inductive Reaction (label : String) (c : Console Handle) : Key → Console Handle → Prop
  | submitted {key : Key} (intent : Intent) (hintent : key.intent? c.state = some intent) :
      Reaction label c key (c.submit intent label).2
  | modeToggled : Reaction label c (.char 'm') (c.setMode label c.state.session.mode.toggled).2
  | selected {digit : Char} {kind : TestKind} (hintent : (Key.char digit).intent? c.state = none)
      (hkind : kindOfDigit? digit = some kind) :
      Reaction label c (.char digit) (c.selectTest label kind).2
  | cleared : Reaction label c (.char 'c') (clear label c)
  | exported (level : LogLevel) (message : String) :
      Reaction label c (.char 'e') (c.record label level message)
  | ignored {key : Key} (hintent : key.intent? c.state = none) (hclear : key ≠ .char 'c') :
      Reaction label c key c

theorem onChar_reaction (label : String) (c : Console Handle) (key : Char) :
    Reaction label c (.char key) (onChar label c key) := by
  unfold onChar
  dsimp only
  split
  · exact .modeToggled
  · exact .submitted _ rfl
  · exact .submitted _ rfl
  · exact .submitted _ rfl
  · exact .submitted _ rfl
  · exact .submitted _ rfl
  · exact .submitted _ rfl
  · exact .cleared
  · have hintent : (Key.char key).intent? c.state = none := by
      unfold Key.intent?
      split <;> simp_all
    split
    · next hkind => exact .selected hintent hkind
    · exact .ignored hintent (by simp_all)

theorem writeExports_reaction {δ : Type} [FileSystem δ] (now : Moment) (d : Dashboard) (disk : δ) :
    Reaction now.label d.console (.char 'e') (d.writeExports now disk).1.console := by
  unfold writeExports
  dsimp only
  split <;> exact .exported _ _

theorem press_reaction {δ : Type} [FileSystem δ] (now : Moment) (d : Dashboard) (disk : δ) (key : Key) :
    match (d.press now disk key).1 with
    | none => key = .char 'q'
    | some after => Reaction now.label d.console key after.console := by
  generalize hpress : d.press now disk key = result
  unfold press at hpress
  split at hpress <;> subst hpress
  · rfl
  · exact d.writeExports_reaction now disk
  · exact .ignored rfl (by decide)
  · next c _ _ _ => exact onChar_reaction now.label d.console c
  · exact .ignored rfl (by decide)

namespace Reaction

variable {label : String} {c after : Console Handle} {key : Key}

/-- **A key hands the sink the command of its intent, if there is one,** and nothing else. -/
theorem sink (h : Reaction label c key after) :
    after.sink = Console.offerAll c.sink (handed c key) := by
  cases h with
  | submitted intent hintent =>
      rw [Console.sink_submit, handed, hintent]
      rfl
  | modeToggled => exact sink_setMode c label _
  | selected hintent hkind =>
      rw [handed_of_none hintent]
      exact sink_selectTest c label _
  | cleared => exact sink_clear c label
  | exported level message =>
      have hintent : (Key.char 'e').intent? c.state = none := rfl
      rw [handed_of_none hintent]
      simp only [Console.record]
      rfl
  | ignored hintent hclear =>
      rw [handed_of_none hintent]
      rfl

/-- **No key disturbs a test in progress.** Every key leaves all but the log alone, but for the stop of
    the test. -/
theorem of_busy (h : Reaction label c key after) (hbusy : c.state.session.status ≠ .idle) :
    (∀ part : Part, part ≠ .log → part.Same c.state after.state) ∨
      (key = .char 'x' ∧ after = (c.submit .stopTest label).2) := by
  have hnoted (level : LogLevel) (message : String) :
      ∀ part : Part, part ≠ .log → part.Same c.state (c.record label level message).state :=
    fun part hpart => Part.same_log _ hpart
  cases h with
  | submitted intent hintent =>
      obtain ⟨-, -, hx⟩ := Key.of_intent? hintent
      by_cases hstop : intent = .stopTest
      · exact .inr ⟨hx hstop, by rw [hstop]⟩
      · -- A start is refused, and no other intent touches more than the log.
        left
        intro part hpart
        by_cases hstart : intent = .startTest
        · rw [hstart]
          exact Console.same_start_of_busy hbusy hpart
        · exact c.same_submit label (Intent.touches_eq_false hstart hstop hpart)
  | modeToggled =>
      left
      -- To stay in a mode would be allowed, but the key asks for the other one.
      have hother : c.state.session.mode.toggled ≠ c.state.session.mode := by
        cases c.state.session.mode <;> nofun
      have hlocked : c.state.session.setMode c.state.session.mode.toggled =
          .error (.modeLocked c.state.session.status) := by
        rw [Session.setMode, if_neg hother, if_neg hbusy]
      rw [Console.setMode, hlocked]
      exact hnoted _ _
  | selected hintent hkind =>
      left
      have hlocked : c.state.session.checkReconfigure =
          .error (.selectionLocked c.state.session.status) := by
        rw [Session.checkReconfigure, if_neg hbusy]
      rw [Console.selectTest, Console.configure, hlocked]
      exact hnoted _ _
  | cleared =>
      left
      have hidle : ¬c.state.session.isIdle = true := by simpa [Session.isIdle] using hbusy
      rw [clear, if_neg hidle]
      exact hnoted _ _
  | exported level message => exact .inl (hnoted level message)
  | ignored hintent hclear =>
      left
      intro part hpart
      exact Part.same_log c.state.log hpart

/-- **Only a start can put a test in progress.** -/
theorem of_idle (h : Reaction label c key after) (hidle : c.state.session.status = .idle)
    (hbusy : after.state.session.status ≠ .idle) : key = .char 's' := by
  have hnot (hstatus : after.state.session.status = c.state.session.status) : False :=
    hbusy (hstatus.trans hidle)
  cases h with
  | submitted intent hintent =>
      obtain ⟨-, hs, -⟩ := Key.of_intent? hintent
      by_cases hstart : intent = .startTest
      · exact hs hstart
      · exfalso
        by_cases hstop : intent = .stopTest
        · -- There is nothing to stop.
          subst hstop
          rcases c.session_stop label with ⟨hnotIdle, -⟩ | hsession
          · exact hnotIdle hidle
          · exact hnot (congrArg Session.status hsession)
        · have hrun : Part.run.Same c.state (c.submit intent label).2.state :=
            c.same_submit label (Intent.touches_eq_false hstart hstop nofun)
          exact hnot hrun.1
  | modeToggled => exact (hnot (status_setMode c label _)).elim
  | selected hintent hkind =>
      exact (hnot (congrArg Session.status (session_selectTest c label _))).elim
  | cleared =>
      rw [clear_of_idle label hidle] at hbusy
      exact absurd rfl hbusy
  | exported level message => exact absurd hidle hbusy
  | ignored hintent hclear => exact absurd hidle hbusy

end Reaction

/-- From one state to another the test in progress is not disturbed: the same test is in progress in the
    same mode, at most it has begun to wait for its end; and all that the user asked for and that the
    backend has told of stays as it was. -/
structure Undisturbed (s t : ClientState) : Prop where
  busy : t.session.status ≠ .idle
  activeTest : t.session.activeTest = s.session.activeTest
  status : t.session.status ≠ s.session.status →
    s.session.status = .running ∧ t.session.status = .stopping
  rest (part : Part) : part ≠ .run → part ≠ .log → part.Same s t

theorem Undisturbed.of_same {s t : ClientState} (hbusy : s.session.status ≠ .idle)
    (h : ∀ part : Part, part ≠ .log → part.Same s t) : Undisturbed s t := by
  obtain ⟨hstatus, htest⟩ : Part.run.Same s t := h .run nofun
  refine ⟨?_, htest, fun hother => absurd hstatus hother, fun part _ hpart => h part hpart⟩
  rw [hstatus]
  exact hbusy

/-- The stop of a test. -/
theorem undisturbed_stop (c : Console Handle) (label : String) (hbusy : c.state.session.status ≠ .idle) :
    Undisturbed c.state (c.submit .stopTest label).2.state ∧
      ((c.submit .stopTest label).2.state.session.status ≠ c.state.session.status →
        (c.submit .stopTest label).1 = .ok ()) := by
  have hrest (part : Part) (hrun : part ≠ .run) (hlog : part ≠ .log) :
      part.Same c.state (c.submit .stopTest label).2.state := by
    refine c.same_submit label ?_
    cases part with
    | run => exact absurd rfl hrun
    | log => exact absurd rfl hlog
    | _ => rfl
  rcases c.session_stop label with ⟨-, hok, hsession⟩ | hsession
  · refine ⟨⟨?_, ?_, ?_, hrest⟩, fun _ => hok⟩
    · rw [hsession]
      nofun
    · rw [hsession]
    · rw [hsession]
      intro hother
      refine ⟨?_, rfl⟩
      cases hstatus : c.state.session.status with
      | idle => exact absurd hstatus hbusy
      | running => rfl
      | stopping => exact absurd hstatus.symm hother
  · have hstatus := congrArg Session.status hsession
    refine ⟨⟨?_, congrArg Session.activeTest hsession, fun hother => absurd hstatus hother, hrest⟩,
      fun hother => absurd hstatus hother⟩
    rw [hstatus]
    exact hbusy

/-- **A key leaves a test in progress undisturbed,** and only `x` has it wait for its end. -/
theorem Reaction.undisturbed {label : String} {c after : Console Handle} {key : Key}
    (h : Reaction label c key after) (hbusy : c.state.session.status ≠ .idle) :
    Undisturbed c.state after.state ∧
      (after.state.session.status ≠ c.state.session.status →
        key = .char 'x' ∧ (c.submit .stopTest label).1 = .ok ()) := by
  rcases h.of_busy hbusy with hsame | ⟨hx, rfl⟩
  · obtain ⟨hstatus, -⟩ : Part.run.Same c.state after.state := hsame .run nofun
    exact ⟨.of_same hbusy hsame, fun hother => absurd hstatus hother⟩
  · obtain ⟨hundisturbed, hok⟩ := undisturbed_stop c label hbusy
    exact ⟨hundisturbed, fun hother => ⟨hx, hok hother⟩⟩

/-- The run is cleared, and nothing else. -/
structure Cleared (s t : ClientState) : Prop where
  idle : t.session.status = .idle
  labels : t.telemetry.labels = []
  values (series : Series) : t.telemetry.values series = []
  sweep : t.sweep = {}
  latest : t.latest = {}
  rest : ∀ part ∈ [Part.mode, .request, .serverStatus, .connectivity], part.Same s t

theorem cleared_clear (label : String) {c : Console Handle} (hidle : c.state.session.status = .idle) :
    Cleared c.state (clear label c).state := by
  rw [clear_of_idle label hidle]
  refine ⟨rfl, rfl, fun series => ?_, rfl, rfl, ?_⟩
  · exact Telemetry.values_reset _ series
  · simp only [List.mem_cons, List.not_mem_nil, or_false]
    rintro part (rfl | rfl | rfl | rfl) <;> rfl

/-- **What a key may do.** A key hands the sink one command at most, and only the keys for a command hand it
    any. While a test is in progress no key disturbs it, and of all keys only `x` has it wait for its end,
    by a stop that is accepted. While none is in progress only `s` can put one there, and `c` clears the
    run. This holds of every dashboard, whatever it has been through. -/
theorem press_undisturbed {δ : Type} [FileSystem δ] (now : Moment) (d : Dashboard) (disk : δ) (key : Key) :
    match (d.press now disk key).1 with
    | none => key = .char 'q'
    | some after =>
      let s := d.console.state
      let t := after.console.state
      (after.console.sink = Console.offerAll d.console.sink (handed d.console key) ∧
        (handed d.console key).length ≤ 1 ∧ (handed d.console key ≠ [] → key ∈ Key.commanding)) ∧
      (s.session.status ≠ .idle →
        Undisturbed s t ∧
        (t.session.status ≠ s.session.status →
          key = .char 'x' ∧ (d.console.submit .stopTest now.label).1 = .ok ())) ∧
      (s.session.status = .idle →
        (t.session.status ≠ .idle → key = .char 's') ∧ (key = .char 'c' → Cleared s t)) := by
  have hreaction := d.press_reaction now disk key
  generalize hpress : d.press now disk key = result at hreaction ⊢
  rcases result with ⟨_ | after, disk'⟩
  · exact hreaction
  · refine ⟨⟨hreaction.sink, length_handed d.console key, commanding_of_handed⟩,
      hreaction.undisturbed, ?_⟩
    intro hidle
    refine ⟨hreaction.of_idle hidle, ?_⟩
    rintro rfl
    cases hpress
    exact cleared_clear now.label hidle

/-- A dashboard whose test has been started. -/
def started : Dashboard where
  console :=
    ((Console.new {} ({ state := .connected, outbox := some {} } : Handle)).submit .startTest "1").2

example (now : Moment) :
    started.console.state.session.status = .running ∧
      (started.press now ({} : Storage) (.char 'c')).1.map (fun d => d.console.state.session.status) =
        some .running ∧
      (started.press now ({} : Storage) (.char 'x')).1.map (fun d => d.console.state.session.status) =
        some .stopping :=
  ⟨rfl, rfl, rfl⟩

end Dashboard

end NetGauge
