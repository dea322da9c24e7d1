import NetGauge.Proofs.Console.Tape
import NetGauge.Proofs.Console.Turns
import NetGauge.Proofs.Headless.Transport

set_option autoImplicit false

/-! # The commands of a run

All that a run without a screen hands to its sink, taken or refused, in its order: requests for the status
of the servers, among them at most one command that launches the run, and behind everything else at most
one that stops the test of an interrupted run (`Headless.Commands`). What is offered is read off a tape
around the sink, which the run cannot tell from the sink itself (`step_untaped`).

A run that goes on has offered nothing but requests, but for the command that launched it (`Course`), and
one more arrival leaves it so or ends it (`Ongoing.step`). A launch that is refused ends the run, so it is
not tried again on the next connection, and a launch that succeeds is remembered. -/

namespace NetGauge

variable {τ σ : Type} [CommandSink τ] [CommandSink σ]

/-- What launches a run of either mode. -/
def Command.launches (c : Command) : Bool := c.startsTest || c.controlsServer

namespace Headless

/-! ## Runs with a tape -/

/-- The same turn for a sink with a tape. Whatever becomes of the sink leaves its tape alone. -/
def Turn.taped (t : Turn σ) : Turn (Tape σ) where
  label := t.label
  arrival := t.arrival
  meanwhile tape := { tape with sink := t.meanwhile tape.sink }
  amid tape := { tape with sink := t.amid tape.sink }

/-- A run without the tape of its sink. -/
def Run.untaped (r : Run (Tape σ)) : Run σ :=
  { console := r.console.through Tape.view, launched := r.launched }

/-- What a run has offered so far. -/
def Run.offers (r : Run (Tape σ)) : List Offer := r.console.sink.offers

theorem launch_through (v : View τ σ) (c : Console τ) (label : String) :
    launch (c.through v) label = ((launch c label).1, (launch c label).2.through v) := by
  have hsubmit := fun intent => c.submit_through v label intent
  have hmode : (c.through v).state.session.mode = c.state.session.mode := rfl
  have hserver : (c.through v).state.request.kind.server? = c.state.request.kind.server? := rfl
  unfold launch
  simp only [hmode, hserver, hsubmit]
  cases c.state.session.mode with
  | generator => rfl
  | listener => cases c.state.request.kind.server? <;> rfl

section

variable (r : Run (Tape σ)) (label : String)

theorem ensureLaunched_untaped :
    r.untaped.ensureLaunched label =
      ((r.ensureLaunched label).1, (r.ensureLaunched label).2.untaped) := by
  have hlaunch := launch_through Tape.view r.console label
  unfold Run.ensureLaunched
  simp only [Run.untaped, hlaunch]
  split
  · rfl
  · rcases launch r.console label with ⟨_ | _, c⟩ <;> rfl

theorem onPayload_untaped (text : String) :
    onPayload r.untaped label text =
      ((onPayload r label text).1, (onPayload r label text).2.untaped) := by
  unfold onPayload
  cases Event.decode text with
  | error err => simp only [Run.untaped, Console.handlePayload_through]
  | ok e => simp only [Run.untaped, Console.handleEvent_through]; rfl

theorem onInterrupt_untaped :
    onInterrupt r.untaped label = ((onInterrupt r label).1, (onInterrupt r label).2.untaped) := by
  have hstate : r.untaped.console.state = r.console.state := rfl
  have hsubmit : (r.untaped.console.submit .stopTest label).2 =
      (r.console.submit .stopTest label).2.through Tape.view :=
    congrArg Prod.snd (r.console.submit_through Tape.view label .stopTest)
  have hlaunched : r.untaped.launched = r.launched := rfl
  unfold onInterrupt
  rw [hstate, hsubmit, hlaunched]
  split <;> rfl

/-- **A tape changes nothing of what an arrival comes to.** -/
theorem step_untaped (t : Turn σ) :
    step r.untaped t = ((step r t.taped).1, (step r t.taped).2.untaped) := by
  have hdrift : r.untaped.drift t.meanwhile = (r.drift t.taped.meanwhile).untaped := rfl
  have harrival : t.taped.arrival = t.arrival := rfl
  simp only [step, hdrift, harrival]
  generalize r.drift t.taped.meanwhile = r
  cases t.arrival with
  | interrupt => exact onInterrupt_untaped r t.label
  | closed => rfl
  | message m =>
      cases m with
      | payload text => exact onPayload_untaped r t.label text
      | disconnected => simp only [Run.untaped, Console.onDisconnected_through]; rfl
      | connected =>
          have htold := r.console.onConnected_through Tape.view t.label
          have hlaunch := ensureLaunched_untaped
            ({ r with console := r.console.onConnected t.label }.drift t.taped.amid) t.label
          unfold onConnected
          rw [show t.taped.label = t.label from rfl, ← hlaunch]
          simp only [Run.untaped, htold]
          rfl

theorem advanceThrough_untaped (turns : List (Turn σ)) :
    advanceThrough r.untaped turns =
      ((advanceThrough r (turns.map Turn.taped)).1,
        (advanceThrough r (turns.map Turn.taped)).2.untaped) := by
  induction turns generalizing r with
  | nil => rfl
  | cons t rest ih =>
      have hstep := step_untaped r t
      simp only [List.map_cons, advanceThrough, hstep]
      rcases step r t.taped with ⟨_ | outcome, s⟩
      · exact ih s
      · rfl

theorem driveThrough_untaped (turns : List (Turn σ)) :
    driveThrough r.untaped turns =
      ((driveThrough r (turns.map Turn.taped)).1,
        (driveThrough r (turns.map Turn.taped)).2.untaped) := by
  have hall := advanceThrough_untaped r turns
  simp only [driveThrough, hall]
  rcases advanceThrough r (turns.map Turn.taped) with ⟨_ | outcome, s⟩ <;> rfl

end

/-! ## The command that launches -/

section

variable {request : TestRequest} {start : Command}

theorem launchCommand?_generator_eq_some_iff :
    launchCommand? request .generator = some start ↔ request.startCommand = .ok start := by
  rw [launchCommand?]
  cases request.startCommand <;> simp [Except.toOption]

theorem launchCommand?_listener_eq_some_iff :
    launchCommand? request .listener = some start ↔
      ∃ server, request.kind.server? = some server ∧ .startServer server = start := by
  rw [launchCommand?, Option.map_eq_some_iff]

/-- What launches a run starts a test in generator mode and a server in listener mode, and nothing that
    stops. -/
theorem sort_of_launchCommand? {mode : Mode} (h : launchCommand? request mode = some start) :
    start.stopsTest = false ∧
      (start.startsTest = true → mode = .generator ∧ request.startCommand = .ok start) ∧
      (start.controlsServer = true → mode = .listener ∧
        ∃ server, request.kind.server? = some server ∧ .startServer server = start) := by
  cases mode with
  | generator =>
      have hstart := launchCommand?_generator_eq_some_iff.1 h
      have hsort := Command.of_startsTest (TestRequest.startsTest_startCommand hstart)
      refine ⟨hsort.2, fun _ => ⟨rfl, hstart⟩, ?_⟩
      intro hcontrols
      rw [hsort.1] at hcontrols
      cases hcontrols
  | listener =>
      obtain ⟨server, hserver, rfl⟩ := launchCommand?_listener_eq_some_iff.1 h
      exact ⟨rfl, nofun, fun _ => ⟨rfl, server, hserver, rfl⟩⟩

/-- Neither does a request for the status of the servers stop anything. -/
theorem not_stopsTest {mode : Mode} {o : Offer}
    (h : o.Asks ∨ launchCommand? request mode = some o.command) : ¬o.command.stopsTest = true := by
  rcases h with hasks | hstart
  · rw [hasks]
    nofun
  · rw [(sort_of_launchCommand? hstart).1]
    nofun

end

/-- A launch is a submission, for an intent that stands for the command of the launch, or fails for want
    of a server. -/
theorem launch_eq (c : Console σ) (label : String) :
    (∃ intent failure,
      launch c label =
        ((c.submit intent label).1.mapError failure, (c.submit intent label).2) ∧
      ∀ start, intent.allowed c.state.request c.state.session = .ok start →
        launchCommand? c.state.request c.state.session.mode = some start) ∨
    launch c label = (.error (.noServer c.state.request.kind), c) := by
  cases hmode : c.state.session.mode with
  | generator =>
      refine .inl ⟨.startTest, _, launch_of_generator c label hmode, ?_⟩
      intro start hallowed
      have hstart := ((Intent.allowed_startTest_eq_ok_iff _ _ _).1 hallowed).2
      exact launchCommand?_generator_eq_some_iff.2 hstart
  | listener =>
      cases hserver : c.state.request.kind.server? with
      | none =>
          right
          simp only [launch, hmode, hserver]
      | some server =>
          refine .inl ⟨.startServer server, _, launch_of_listener c label hmode hserver, ?_⟩
          intro start hallowed
          have hstart := ((Intent.allowed_startServer_eq_ok_iff _ _ _ server).1 hallowed).2
          exact launchCommand?_listener_eq_some_iff.2 ⟨server, hserver, hstart⟩

/-- **A launch offers the sink its command,** and succeeds if the sink takes it; or it fails and offers
    nothing. -/
theorem offers_launch (c : Console (Tape σ)) (label : String) :
    (∃ start, launchCommand? c.state.request c.state.session.mode = some start ∧
      (launch c label).2.sink.offers = c.sink.offers ++ [⟨start, (launch c label).1.isOk⟩]) ∨
    (∃ e, (launch c label).1 = .error e) ∧ (launch c label).2.sink.offers = c.sink.offers := by
  rcases launch_eq c label with ⟨intent, failure, hlaunch, hcommand⟩ | hlaunch
  · have hisOk : ((c.submit intent label).1.mapError failure).isOk = (c.submit intent label).1.isOk := by
      cases (c.submit intent label).1 <;> rfl
    rw [hlaunch, hisOk]
    rcases c.offers_submit label intent with ⟨start, hallowed, hoffers⟩ | ⟨⟨r, herror⟩, hoffers⟩
    · exact .inl ⟨start, hcommand start hallowed, hoffers⟩
    · exact .inr ⟨⟨failure r, by rw [herror]; rfl⟩, hoffers⟩
  · rw [hlaunch]
    exact .inr ⟨⟨_, rfl⟩, rfl⟩

/-- A launch leaves the request and the mode alone. -/
theorem same_launch (c : Console σ) (label : String) :
    Part.request.Same c.state (launch c label).2.state ∧
      Part.mode.Same c.state (launch c label).2.state := by
  rcases launch_eq c label with ⟨intent, failure, hlaunch, -⟩ | hlaunch
  · rw [hlaunch]
    exact ⟨c.same_submit label rfl, c.same_submit label rfl⟩
  · rw [hlaunch]
    exact ⟨rfl, rfl⟩

/-! ## The course of a run -/

/-- What a run has offered that goes on: before it is launched, requests for the status of the servers;
    after that, also the command that launched it, which was taken. -/
inductive Course (start? : Option Command) : Bool → List Offer → Prop
  | waiting {asked : List Offer} (hasked : ∀ o ∈ asked, o.Asks) : Course start? false asked
  | launched {asked later : List Offer} {start : Command} (hstart : start? = some start)
      (hasked : ∀ o ∈ asked, o.Asks) (hlater : ∀ o ∈ later, o.Asks) :
      Course start? true (asked ++ ⟨start, true⟩ :: later)

/-- What a run has offered by its end: nothing more, or a command that should have launched it and was
    refused, or, at the end of a launched run, one that stops a test. -/
inductive Commands (start? : Option Command) : List Offer → Prop
  | ongoing {launched : Bool} {offers : List Offer} (hcourse : Course start? launched offers) :
      Commands start? offers
  | refused {asked : List Offer} {start : Command} (hstart : start? = some start)
      (hasked : ∀ o ∈ asked, o.Asks) : Commands start? (asked ++ [⟨start, false⟩])
  | stopped {offers : List Offer} (test : TestKind) (taken : Bool)
      (hcourse : Course start? true offers) : Commands start? (offers ++ [⟨test.stopCommand, taken⟩])

section

variable {start? : Option Command} {launched : Bool} {offers asked : List Offer} {o : Offer}

theorem Course.ask (h : Course start? launched offers) (hasked : ∀ o ∈ asked, o.Asks) :
    Course start? launched (offers ++ asked) := by
  cases h with
  | waiting hbefore =>
      refine .waiting ?_
      intro o ho
      exact (List.mem_append.1 ho).elim (hbefore o) (hasked o)
  | launched hstart hbefore hlater =>
      rw [List.append_assoc, List.cons_append]
      refine .launched hstart hbefore ?_
      intro o ho
      exact (List.mem_append.1 ho).elim (hlater o) (hasked o)

theorem Course.mem (h : Course start? launched offers) (ho : o ∈ offers) :
    o.Asks ∨ start? = some o.command := by
  cases h with
  | waiting hasked => exact .inl (hasked o ho)
  | launched hstart hasked hlater =>
      rcases List.mem_append.1 ho with hbefore | hrest
      · exact .inl (hasked o hbefore)
      · rcases List.mem_cons.1 hrest with rfl | hafter
        · exact .inr hstart
        · exact .inl (hlater o hafter)

/-- What a run offers asks for the status of the servers, launches the run, or stops a test. -/
theorem Commands.mem (h : Commands start? offers) (ho : o ∈ offers) :
    o.Asks ∨ start? = some o.command ∨ ∃ test : TestKind, o.command = test.stopCommand := by
  cases h with
  | ongoing hcourse => exact (hcourse.mem ho).imp_right .inl
  | refused hstart hasked =>
      rcases List.mem_append.1 ho with hbefore | hlast
      · exact .inl (hasked o hbefore)
      · rw [List.mem_singleton.1 hlast]
        exact .inr (.inl hstart)
  | stopped test taken hcourse =>
      rcases List.mem_append.1 ho with hbefore | hlast
      · exact (hcourse.mem hbefore).imp_right .inl
      · rw [List.mem_singleton.1 hlast]
        exact .inr (.inr ⟨test, rfl⟩)

/-- The offers that launch a run. -/
def launches (offers : List Offer) : List Offer := offers.filter (fun o => o.command.launches)

theorem launches_of_asks (h : ∀ o ∈ asked, o.Asks) : launches asked = [] := by
  refine List.filter_eq_nil_iff.2 ?_
  intro o ho
  rw [h o ho]
  nofun

theorem Course.launches_le (h : Course start? launched offers) : (launches offers).length ≤ 1 := by
  cases h with
  | waiting hasked => simp [launches_of_asks hasked]
  | launched hstart hasked hlater =>
      have hbefore := launches_of_asks hasked
      have hafter := launches_of_asks hlater
      simp only [launches, List.filter_append, List.filter_cons] at hbefore hafter ⊢
      rw [hbefore, hafter]
      split <;> simp

/-- **A run is launched once at most.** -/
theorem Commands.launches_le (h : Commands start? offers) : (launches offers).length ≤ 1 := by
  cases h with
  | ongoing hcourse => exact hcourse.launches_le
  | refused hstart hasked =>
      have hbefore := launches_of_asks hasked
      simp only [launches, List.filter_append] at hbefore ⊢
      rw [hbefore]
      exact List.length_filter_le _ _
  | stopped test taken hcourse =>
      have hcount := hcourse.launches_le
      obtain ⟨hstarts, hcontrols⟩ := Command.sort_stop test.tool
      have hstop : test.stopCommand.launches = false := by
        rw [Command.launches, TestKind.stopCommand, hstarts, hcontrols]
        rfl
      simp only [launches, List.filter_append, List.filter_singleton, hstop] at hcount ⊢
      simpa using hcount

end

/-! ## Step by step -/

/-- Whatever a message is, the console is told of it. -/
theorem onPayload_eq (r : Run σ) (label text : String) :
    ∃ verdict,
      onPayload r label text = (verdict, { r with console := r.console.handlePayload label text }) := by
  unfold onPayload Console.handlePayload
  cases Event.decode text with
  | error err => exact ⟨_, rfl⟩
  | ok e => exact ⟨_, rfl⟩

/-- A run of a configuration that goes on. -/
structure Ongoing (config : ClientConfig) (r : Run (Tape σ)) : Prop where
  request : r.console.state.request = config.test
  mode : r.console.state.session.mode = config.mode
  course : Course (launchCommand? config.test config.mode) r.launched r.offers

/-- What an arrival may come to: the run goes on, or it has ended and stops a test only if the arrival was an
    interrupt, as the last thing that it does. -/
def Orderly (config : ClientConfig) (r : Run (Tape σ)) (t : Turn (Tape σ)) :
    Verdict × Run (Tape σ) → Prop
  | (.goOn, s) => Ongoing config s
  | (.ended _, s) =>
    Commands (launchCommand? config.test config.mode) s.offers ∧
      ∀ o ∈ s.offers, o.command.stopsTest = true →
        t.arrival = .interrupt ∧ s.offers = r.offers ++ [o]

section

variable {config : ClientConfig} {r s : Run (Tape σ)} {t : Turn (Tape σ)}

omit [CommandSink σ]

/-- A run may end that has not stopped anything. -/
theorem orderly_of_mem {outcome : Except RunError Unit}
    (hcommands : Commands (launchCommand? config.test config.mode) s.offers)
    (hmem : ∀ o ∈ s.offers, o.Asks ∨ launchCommand? config.test config.mode = some o.command) :
    Orderly config r t (.ended outcome, s) := by
  refine ⟨hcommands, ?_⟩
  intro o ho hstops
  exact absurd hstops (not_stopsTest (hmem o ho))

namespace Ongoing

/-- Asking for the status of the servers changes nothing about a run that goes on. -/
theorem ask (h : Ongoing config r) {c : Console (Tape σ)}
    (hrequest : Part.request.Same r.console.state c.state)
    (hmode : Part.mode.Same r.console.state c.state) (hasked : Tape.Asked r.console.sink c.sink) :
    Ongoing config { r with console := c } where
  request := Eq.trans hrequest h.request
  mode := Eq.trans hmode h.mode
  course := by
    obtain ⟨asked, hoffers, hasks⟩ := hasked
    have hcourse := h.course.ask hasks
    rw [Run.offers, ← hoffers] at hcourse
    exact hcourse

/-- A run that could go on may as well end. -/
theorem orderly (h : Ongoing config s) (verdict : Verdict) : Orderly config r t (verdict, s) := by
  cases verdict with
  | goOn => exact h
  | ended outcome => exact orderly_of_mem (.ongoing h.course) (fun o ho => h.course.mem ho)

theorem drift (h : Ongoing config r) {change : Tape σ → Tape σ}
    (hspares : ∀ tape, (change tape).offers = tape.offers) : Ongoing config (r.drift change) :=
  h.ask rfl rfl (.of_offers_eq (hspares r.console.sink))

end Ongoing

end

variable {config : ClientConfig} {r : Run (Tape σ)}

namespace Ongoing

/-- A launch that succeeds is remembered, and one that fails ends the run. -/
theorem launch {c : Console (Tape σ)} (h : Ongoing config ⟨c, false⟩) (label : String)
    (t : Turn (Tape σ)) : Orderly config r t (Run.ensureLaunched ⟨c, false⟩ label) := by
  obtain ⟨hrequest, hmode⟩ := same_launch c label
  have hrequest' : (Headless.launch c label).2.state.request = config.test :=
    Eq.trans hrequest h.request
  have hmode' : (Headless.launch c label).2.state.session.mode = config.mode := Eq.trans hmode h.mode
  -- Not launched yet, the run has asked for the status of the servers only.
  obtain ⟨hasked⟩ := h.course
  rcases offers_launch c label with ⟨start, hstart, hoffers⟩ | ⟨⟨e, herror⟩, hoffers⟩
  · rw [h.request, h.mode] at hstart
    cases hresult : (Headless.launch c label).1 with
    | ok _ =>
        rw [hresult] at hoffers
        rw [ensureLaunched_of_ok hresult]
        refine ⟨hrequest', hmode', ?_⟩
        rw [Run.offers, hoffers]
        exact .launched hstart hasked (by simp)
    | error e =>
        rw [hresult] at hoffers
        rw [ensureLaunched_of_error hresult]
        refine orderly_of_mem ?_ ?_
        · rw [Run.offers, hoffers]
          exact .refused hstart hasked
        · intro o ho
          rw [Run.offers, hoffers] at ho
          rcases List.mem_append.1 ho with hbefore | hlast
          · exact .inl (hasked o hbefore)
          · rw [List.mem_singleton.1 hlast]
            exact .inr hstart
  · rw [ensureLaunched_of_error herror]
    refine orderly ⟨hrequest', hmode', ?_⟩ _
    rw [Run.offers, hoffers]
    exact .waiting hasked

theorem onConnected (h : Ongoing config r) (label : String) {amid : Tape σ → Tape σ}
    (hspares : ∀ tape, (amid tape).offers = tape.offers) (t : Turn (Tape σ)) :
    Orderly config r t (Headless.onConnected r label amid) := by
  have htold : Ongoing config { r with console := r.console.onConnected label } := by
    obtain ⟨log, hstate⟩ := r.console.state_onConnected label
    have hrequest := congrArg ClientState.request hstate
    have hmode := congrArg (fun s => s.session.mode) hstate
    exact h.ask hrequest hmode (r.console.asked_onConnected label)
  have hamid := htold.drift hspares
  unfold Headless.onConnected
  rcases hr : r with ⟨c, _ | _⟩
  · rw [hr] at hamid
    exact hamid.launch label t
  · rw [hr] at hamid
    exact hamid

theorem onPayload (h : Ongoing config r) (label text : String) (t : Turn (Tape σ)) :
    Orderly config r t (Headless.onPayload r label text) := by
  have hrequest : Part.request.Same r.console.state (r.console.handlePayload label text).state :=
    r.console.same_handlePayload label text (fun _ => rfl)
  have hmode : Part.mode.Same r.console.state (r.console.handlePayload label text).state :=
    r.console.same_handlePayload label text (fun _ => rfl)
  obtain ⟨verdict, hpayload⟩ := onPayload_eq r label text
  rw [hpayload]
  exact (h.ask hrequest hmode (r.console.asked_handlePayload label text)).orderly verdict

/-- An interrupt ends a run, and stops the test of one that was launched. -/
theorem onInterrupt (h : Ongoing config r) (label : String) {t : Turn (Tape σ)}
    (harrival : t.arrival = .interrupt) : Orderly config r t (Headless.onInterrupt r label) := by
  unfold Headless.onInterrupt
  split
  · next hbusy =>
      have hcourse := h.course
      rw [hbusy.1] at hcourse
      rcases r.console.offers_submit label .stopTest with ⟨stop, hallowed, hoffers⟩ | ⟨-, hoffers⟩
      · obtain ⟨test, -, rfl⟩ := (Intent.allowed_stopTest_eq_ok_iff _ _ _).1 hallowed
        refine ⟨?_, ?_⟩
        · rw [Run.offers, hoffers]
          exact .stopped test _ hcourse
        · intro o ho hstops
          rw [Run.offers, hoffers] at ho ⊢
          -- Nothing before the interrupt stops a test, so this is the last one.
          rcases List.mem_append.1 ho with hbefore | hlast
          · exact absurd hstops (not_stopsTest (hcourse.mem hbefore))
          · rw [List.mem_singleton.1 hlast]
            exact ⟨harrival, rfl⟩
      · let c := (r.console.submit .stopTest label).2
        have hrequest : Part.request.Same r.console.state c.state := r.console.same_submit label rfl
        have hmode : Part.mode.Same r.console.state c.state := r.console.same_submit label rfl
        exact (h.ask hrequest hmode (.of_offers_eq hoffers)).orderly _
  · exact h.orderly _

/-- **One arrival.** The sink may change around it by itself, but not its tape. -/
theorem step (h : Ongoing config r) (t : Turn σ) : Orderly config r t.taped (step r t.taped) := by
  have hdrift : Ongoing config (r.drift t.taped.meanwhile) := h.drift (fun _ => rfl)
  -- The arrivals in the order of `step`.
  unfold Headless.step
  split
  · have hamid : ∀ tape, (t.taped.amid tape).offers = tape.offers := fun _ => rfl
    exact hdrift.onConnected t.taped.label hamid t.taped
  · obtain ⟨log, hstate⟩ := (r.drift t.taped.meanwhile).console.state_onDisconnected t.taped.label
    have hrequest := congrArg ClientState.request hstate
    have hmode := congrArg (fun s => s.session.mode) hstate
    exact hdrift.ask hrequest hmode (.of_offers_eq rfl)
  · next text _ => exact hdrift.onPayload t.taped.label text t.taped
  · next harrival => exact hdrift.onInterrupt t.taped.label harrival
  · exact hdrift.orderly _

end Ongoing

omit [CommandSink σ] in
/-- A run that starts anew. -/
theorem ongoing_new (config : ClientConfig) (sink : σ) :
    Ongoing config ⟨.new config { sink := sink }, false⟩ where
  request := rfl
  mode := rfl
  course := .waiting nofun

/-! ## Whole runs -/

/-- The last thing that a run offers, when it comes to an interrupt among the arrivals. -/
def LastAtInterrupt (r : Run (Tape σ)) (turns : List (Turn σ)) (o : Offer) : Prop :=
  ∃ earlier t later s, turns = earlier ++ t :: later ∧ t.arrival = .interrupt ∧
    advanceThrough r (earlier.map Turn.taped) = (.goOn, s) ∧
    (driveThrough r (turns.map Turn.taped)).2.offers = s.offers ++ [o]

theorem LastAtInterrupt.cons {r s : Run (Tape σ)} {t : Turn σ} {rest : List (Turn σ)} {o : Offer}
    (hstep : step r t.taped = (.goOn, s)) (h : LastAtInterrupt s rest o) :
    LastAtInterrupt r (t :: rest) o := by
  obtain ⟨earlier, t', later, u, rfl, harrival, hearlier, hoffers⟩ := h
  refine ⟨t :: earlier, t', later, u, rfl, harrival, ?_, ?_⟩
  · rw [List.map_cons, advanceThrough_of_goOn hstep, hearlier]
  · rw [List.map_cons, driveThrough_of_goOn hstep, hoffers]

/-- **All arrivals.** -/
theorem Ongoing.driveThrough (h : Ongoing config r) (turns : List (Turn σ)) :
    Commands (launchCommand? config.test config.mode)
        (Headless.driveThrough r (turns.map Turn.taped)).2.offers ∧
      ∀ o ∈ (Headless.driveThrough r (turns.map Turn.taped)).2.offers,
        o.command.stopsTest = true → LastAtInterrupt r turns o := by
  induction turns generalizing r with
  | nil =>
      refine ⟨.ongoing h.course, ?_⟩
      intro o ho hstops
      exact absurd hstops (not_stopsTest (h.course.mem ho))
  | cons t rest ih =>
      have hone := h.step t
      rw [List.map_cons]
      rcases hstep : Headless.step r t.taped with ⟨_ | outcome, s⟩
      · rw [hstep] at hone
        rw [driveThrough_of_goOn hstep]
        obtain ⟨hcommands, hlast⟩ := ih hone
        exact ⟨hcommands, fun o ho hstops => .cons hstep (hlast o ho hstops)⟩
      · rw [hstep] at hone
        obtain ⟨hcommands, hlast⟩ := hone
        rw [driveThrough_of_ended hstep]
        refine ⟨hcommands, ?_⟩
        intro o ho hstops
        obtain ⟨harrival, hoffers⟩ := hlast o ho hstops
        refine ⟨[], t, rest, r, rfl, harrival, rfl, ?_⟩
        rw [List.map_cons, driveThrough_of_ended hstep]
        exact hoffers

/-- **The commands of a run.** Whatever becomes of the sink, and whatever arrives, a run hands it requests
    for the status of the servers, at most one command that launches the run, and behind all others at most
    one that stops a test. What launches a run is the start of its test in generator mode, and the start
    of the server that its test needs in listener mode; a run that has been launched is not launched again,
    however often the link comes up. A test is stopped by an interrupt only. The tape that tells what was
    offered is no part of this: without it the run comes to the same. -/
theorem driveThrough_commands (config : ClientConfig) (sink : σ) (turns : List (Turn σ)) :
    let fresh : Run (Tape σ) := ⟨.new config { sink := sink }, false⟩
    let taped := driveThrough fresh (turns.map Turn.taped)
    let offers := taped.2.offers
    driveThrough ⟨.new config sink, false⟩ turns = (taped.1, taped.2.untaped) ∧
    Commands (launchCommand? config.test config.mode) offers ∧
    (launches offers).length ≤ 1 ∧
    ∀ o ∈ offers,
      (o.command.startsTest = true →
        config.mode = .generator ∧ config.test.startCommand = .ok o.command) ∧
      (o.command.controlsServer = true →
        config.mode = .listener ∧
          ∃ server, config.test.kind.server? = some server ∧ .startServer server = o.command) ∧
      (o.command.stopsTest = true → LastAtInterrupt fresh turns o) := by
  intro fresh taped offers
  have huntaped : driveThrough fresh.untaped turns = (taped.1, taped.2.untaped) :=
    driveThrough_untaped fresh turns
  obtain ⟨hcommands, hlast⟩ := (ongoing_new config sink).driveThrough turns
  refine ⟨huntaped, hcommands, hcommands.launches_le, ?_⟩
  intro o ho
  refine ⟨?_, ?_, hlast o ho⟩
  · intro hstarts
    rcases hcommands.mem ho with hasks | hstart | ⟨test, hstop⟩
    · rw [hasks] at hstarts
      cases hstarts
    · exact (sort_of_launchCommand? hstart).2.1 hstarts
    · rw [hstop, TestKind.stopCommand, (Command.sort_stop test.tool).1] at hstarts
      cases hstarts
  · intro hcontrols
    rcases hcommands.mem ho with hasks | hstart | ⟨test, hstop⟩
    · rw [hasks] at hcontrols
      cases hcontrols
    · exact (sort_of_launchCommand? hstart).2.2 hcontrols
    · rw [hstop, TestKind.stopCommand, (Command.sort_stop test.tool).2] at hcontrols
      cases hcontrols

/-- A link that comes up again after the test was started, and an interrupt. -/
def reconnected : List (Turn Console.Willing) :=
  [{ label := "1", arrival := .message .connected }, { label := "2", arrival := .message .disconnected },
    { label := "3", arrival := .message .connected }, { label := "4", arrival := .interrupt }]

theorem driveThrough_commands_reconnected :
    let fresh : Run (Tape Console.Willing) := ⟨.new {} { sink := {} }, false⟩
    let offers := (driveThrough fresh (reconnected.map Turn.taped)).2.offers
    offers.map Offer.command =
      [.getServerStatus, .startThroughput ⟨"127.0.0.1", 10, 5201, false, none⟩, .getServerStatus, .stopIperf] ∧
    (launches offers).length ≤ 1 ∧
    ∃ o ∈ offers, o.command = .stopIperf ∧ LastAtInterrupt fresh reconnected o := by
  intro fresh offers
  obtain ⟨-, -, honce, hoffers⟩ := driveThrough_commands {} Console.Willing.mk reconnected
  have hcommands : offers.map Offer.command =
      [.getServerStatus, .startThroughput ⟨"127.0.0.1", 10, 5201, false, none⟩, .getServerStatus, .stopIperf] := by
    decide +kernel
  have hmem : Command.stopIperf ∈ offers.map Offer.command := by simp [hcommands]
  obtain ⟨o, ho, hstop⟩ := List.mem_map.1 hmem
  exact ⟨hcommands, honce, o, ho, hstop, (hoffers o ho).2.2 (by rw [hstop]; rfl)⟩

end Headless

end NetGauge
