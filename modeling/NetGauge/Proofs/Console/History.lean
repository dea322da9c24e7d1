import NetGauge.Proofs.Console.Changes
import NetGauge.Proofs.Console.Submission

set_option autoImplicit false

/-! # What a console does, change by change

A run of a console is a list of operations in any order, the user's and the backend's, with a sink
that may come up, go down or begin to fail in between. Its history is the list of the changes that
it makes, each allowed when it is made (`path_run`); what holds of the client's state after any run is
therefore shown once for each kind of change. The commands among the changes are the ones that the
sink took (`run_journaled`).

All operations have one shape (`Console.perform_eq`): some changes that do not depend on the sink,
and after them at most one submission, whose end the sink decides. -/

namespace NetGauge

/-! ## Operations -/

/-- What may be done to a console. -/
inductive Operation (σ : Type) where
  | submit (intent : Intent)
  | setMode (mode : Mode)
  | selectTest (kind : TestKind)
  | configure (edit : TestRequest → TestRequest)
  | record (level : LogLevel) (message : String)
  | reset
  | payload (text : String)
  | event (e : Event)
  | connected
  | disconnected
  /-- The sink changes by itself. -/
  | sinkChanged (change : σ → σ)

/-- The same operation on a console whose sink has a journal; the sink cannot change the journal. -/
def Operation.journaled {σ : Type} : Operation σ → Operation (Journal σ)
  | submit intent => .submit intent
  | setMode mode => .setMode mode
  | selectTest kind => .selectTest kind
  | configure edit => .configure edit
  | record level message => .record level message
  | reset => .reset
  | payload text => .payload text
  | event e => .event e
  | connected => .connected
  | disconnected => .disconnected
  | sinkChanged change => .sinkChanged (fun j => { j with sink := change j.sink })

/-! ## Plans -/

/-- What an operation does: changes that do not depend on the sink, and the intent that is submitted
    after them. -/
structure Plan where
  changes : List Change
  intent : Option Intent := none

namespace ClientState

variable (s : ClientState) (label : String)

def planEvent (e : Event) : Plan :=
  match (s.dispatch label e).2 with
  | .nothing => { changes := [.dispatched label e] }
  | .refreshStatus => { changes := [.dispatched label e], intent := some .refreshServerStatus }
  | .reportError message => { changes := [.dispatched label e, .noted label .error message] }

def planPayload (text : String) : Plan :=
  match Event.decode text with
  | .ok e => s.planEvent label e
  | .error e => { changes := [.noted label .info ("Ignored message: " ++ e.message)] }

def planEdit (edit : TestRequest → TestRequest) : Plan :=
  match s.session.checkReconfigure with
  | .ok () => { changes := [.edited edit] }
  | .error e => { changes := [.noted label .error e.message] }

def planMode (mode : Mode) : Plan :=
  match s.session.setMode mode with
  | .ok _ =>
    { changes := [.modeSet mode, .noted label .info ("Switched to " ++ mode.name ++ " mode")] }
  | .error e => { changes := [.noted label .error e.message] }

end ClientState

namespace Operation

variable {σ : Type}

/-- What an operation does to a client in a state; the delay is the one told after a disconnection. -/
def plan (s : ClientState) (delay : UInt64) (label : String) : Operation σ → Plan
  | submit intent => { changes := [], intent := some intent }
  | setMode mode => s.planMode label mode
  | selectTest kind => s.planEdit label (fun r => { r with kind := kind })
  | configure edit => s.planEdit label edit
  | record level message => { changes := [.noted label level message] }
  | reset => { changes := [.reset] }
  | payload text => s.planPayload label text
  | event e => s.planEvent label e
  | connected =>
    { changes := [.linked .connected, .noted label .success "Connected to backend"]
      intent := some .refreshServerStatus }
  | disconnected =>
    { changes := [.linked .disconnected, .noted label .error
        ("Disconnected from backend, reconnecting in " ++ Measure.delay delay)] }
  | sinkChanged _ => { changes := [] }

/-- What becomes of the sink by itself. -/
def sinkAfter (sink : σ) : Operation σ → σ
  | sinkChanged change => change sink
  | _ => sink

theorem plan_journaled (s : ClientState) (delay : UInt64) (label : String) (op : Operation σ) :
    op.journaled.plan s delay label = op.plan s delay label := by
  cases op <;> rfl

theorem sinkAfter_journaled (j : Journal σ) (op : Operation σ) :
    op.journaled.sinkAfter j = { j with sink := op.sinkAfter j.sink } := by
  cases op <;> rfl

end Operation

/-! ## Plans are allowed and send nothing by themselves -/

section

variable (s : ClientState) (label : String)

theorem path_planEvent (e : Event) :
    Path s (s.planEvent label e).changes (s.after (s.planEvent label e).changes) := by
  have hfirst : Path s [.dispatched label e] (s.dispatch label e).1 :=
    Path.one (.dispatched label e) trivial
  unfold ClientState.planEvent
  cases (s.dispatch label e).2 with
  | nothing => exact hfirst
  | refreshStatus => exact hfirst
  | reportError message =>
      exact hfirst.append (Path.one (.noted label .error message) trivial)

theorem path_planEdit (edit : TestRequest → TestRequest) :
    Path s (s.planEdit label edit).changes (s.after (s.planEdit label edit).changes) := by
  unfold ClientState.planEdit
  cases hfree : s.session.checkReconfigure with
  | ok _ =>
      have hidle := (s.session.checkReconfigure_eq_ok_iff).1 hfree
      exact Path.one (.edited edit) hidle
  | error e => exact Path.one (.noted label .error e.message) trivial

theorem path_planMode (mode : Mode) :
    Path s (s.planMode label mode).changes (s.after (s.planMode label mode).changes) := by
  unfold ClientState.planMode
  cases hset : s.session.setMode mode with
  | ok session =>
      obtain ⟨hfree, -⟩ := (s.session.setMode_eq_ok_iff _ _).1 hset
      exact (Path.one (.modeSet mode) hfree).append
        (Path.one (.noted label .info ("Switched to " ++ mode.name ++ " mode")) trivial)
  | error e => exact Path.one (.noted label .error e.message) trivial

theorem path_planPayload (text : String) :
    Path s (s.planPayload label text).changes (s.after (s.planPayload label text).changes) := by
  unfold ClientState.planPayload
  cases Event.decode text with
  | ok e => exact path_planEvent s label e
  | error e => exact Path.one (.noted label .info _) trivial

theorem path_plan {σ : Type} (delay : UInt64) (op : Operation σ) :
    Path s (op.plan s delay label).changes (s.after (op.plan s delay label).changes) := by
  cases op with
  | submit intent => exact .nil s
  | setMode mode => exact path_planMode s label mode
  | selectTest kind => exact path_planEdit s label _
  | configure edit => exact path_planEdit s label edit
  | record level message => exact Path.one (.noted label level message) trivial
  | reset => exact Path.one (.reset) trivial
  | payload text => exact path_planPayload s label text
  | event e => exact path_planEvent s label e
  | connected =>
      exact (Path.one (.linked .connected) trivial).append
        (Path.one (.noted label .success "Connected to backend") trivial)
  | disconnected =>
      exact (Path.one (.linked .disconnected) trivial).append
        (Path.one (.noted label .error _) trivial)
  | sinkChanged change => exact .nil s

/-- A change that sends nothing and does not forget the run. -/
def Change.Quiet (change : Change) : Prop := change.command? = none ∧ change ≠ .reset

theorem quiet_planEvent (e : Event) : ∀ change ∈ (s.planEvent label e).changes, change.Quiet := by
  unfold ClientState.planEvent
  cases (s.dispatch label e).2 <;> simp [Change.Quiet, Change.command?]

theorem quiet_planEdit (edit : TestRequest → TestRequest) :
    ∀ change ∈ (s.planEdit label edit).changes, change.Quiet := by
  unfold ClientState.planEdit
  cases s.session.checkReconfigure <;> simp [Change.Quiet, Change.command?]

theorem quiet_planMode (mode : Mode) :
    ∀ change ∈ (s.planMode label mode).changes, change.Quiet := by
  unfold ClientState.planMode
  cases s.session.setMode mode <;> simp [Change.Quiet, Change.command?]

theorem quiet_planPayload (text : String) :
    ∀ change ∈ (s.planPayload label text).changes, change.Quiet := by
  unfold ClientState.planPayload
  cases Event.decode text with
  | ok e => exact quiet_planEvent s label e
  | error e => simp [Change.Quiet, Change.command?]

/-- A plan sends nothing but by its intent, and only a reset forgets the run. -/
theorem quiet_plan {σ : Type} (delay : UInt64) (op : Operation σ) :
    ∀ change ∈ (op.plan s delay label).changes, change.Quiet ∨ op = .reset ∧ change = .reset := by
  intro change hmem
  cases op with
  | setMode mode => exact .inl (quiet_planMode s label mode change hmem)
  | selectTest kind => exact .inl (quiet_planEdit s label _ change hmem)
  | configure edit => exact .inl (quiet_planEdit s label edit change hmem)
  | payload text => exact .inl (quiet_planPayload s label text change hmem)
  | event e => exact .inl (quiet_planEvent s label e change hmem)
  | reset => exact .inr ⟨rfl, List.mem_singleton.1 hmem⟩
  | record level message =>
      left
      obtain rfl := List.mem_singleton.1 hmem
      exact ⟨rfl, nofun⟩
  | connected | disconnected =>
      left
      simp only [Operation.plan, List.mem_cons, List.not_mem_nil, or_false] at hmem
      rcases hmem with rfl | rfl <;> exact ⟨rfl, nofun⟩
  | submit _ | sinkChanged _ => cases hmem

theorem commands_plan {σ : Type} (delay : UInt64) (op : Operation σ) :
    (op.plan s delay label).changes.filterMap Change.command? = [] := by
  rw [List.filterMap_eq_nil_iff]
  intro change hmem
  rcases quiet_plan s label delay op change hmem with hquiet | ⟨-, rfl⟩
  · exact hquiet.1
  · rfl

end

namespace Console

variable {σ : Type} [CommandSink σ]

/-! ## Operations and their changes -/

/-- Carries out one operation in the tick of a label. -/
def perform (c : Console σ) (label : String) : Operation σ → Console σ
  | .submit intent => (c.submit intent label).2
  | .setMode mode => (c.setMode label mode).2
  | .selectTest kind => (c.selectTest label kind).2
  | .configure edit => (c.configure label edit).2
  | .record level message => c.record label level message
  | .reset => c.reset
  | .payload text => c.handlePayload label text
  | .event e => c.handleEvent label e
  | .connected => c.onConnected label
  | .disconnected => c.onDisconnected label
  | .sinkChanged change => { c with sink := change c.sink }

/-- The plan of an operation. -/
def plan (c : Console σ) (label : String) (op : Operation σ) : Plan :=
  op.plan c.state c.reconnectDelayMs label

/-- The console after the changes of a plan, before its intent is submitted. -/
def staged (c : Console σ) (label : String) (op : Operation σ) : Console σ :=
  { c with state := c.state.after (c.plan label op).changes, sink := op.sinkAfter c.sink }

/-- Submits the intent of a plan. -/
def pursue (c : Console σ) (label : String) : Option Intent → Console σ
  | none => c
  | some intent => (c.submit intent label).2

/-- The change that a submission makes. -/
def submitted (c : Console σ) (label : String) (intent : Intent) : Change :=
  match intent.encode c.state.request c.state.session (CommandSink.isConnected c.sink) with
  | .error r => .noted label .error r.message
  | .ok command =>
    match (CommandSink.send command c.sink).1 with
    | .ok () => .sent intent label command
    | .error e => .noted label .error (Rejection.delivery e).message

/-- The changes that pursuing an intent makes. -/
def pursued (c : Console σ) (label : String) : Option Intent → List Change
  | none => []
  | some intent => [c.submitted label intent]

/-- The changes that an operation makes, oldest first. -/
def changes (c : Console σ) (label : String) (op : Operation σ) : List Change :=
  (c.plan label op).changes ++ (c.staged label op).pursued label (c.plan label op).intent

theorem handleEvent_eq (c : Console σ) (label : String) (e : Event) :
    c.handleEvent label e =
      { c with state := c.state.after (c.state.planEvent label e).changes }.pursue label
        (c.state.planEvent label e).intent := by
  have hdispatch : c.handleEvent label e = match (c.state.dispatch label e).2 with
      | .nothing => { c with state := (c.state.dispatch label e).1 }
      | .refreshStatus =>
        ({ c with state := (c.state.dispatch label e).1 }.submit .refreshServerStatus label).2
      | .reportError message =>
        { c with state := (c.state.dispatch label e).1 }.record label .error message := rfl
  rw [hdispatch]
  unfold ClientState.planEvent
  cases (c.state.dispatch label e).2 <;> rfl

theorem configure_eq (c : Console σ) (label : String) (edit : TestRequest → TestRequest) :
    (c.configure label edit).2 =
      { c with state := c.state.after (c.state.planEdit label edit).changes }.pursue label
        (c.state.planEdit label edit).intent := by
  unfold configure ClientState.planEdit
  cases c.state.session.checkReconfigure <;> rfl

theorem setMode_eq (c : Console σ) (label : String) (mode : Mode) :
    (c.setMode label mode).2 =
      { c with state := c.state.after (c.state.planMode label mode).changes }.pursue label
        (c.state.planMode label mode).intent := by
  unfold setMode ClientState.planMode
  cases hset : c.state.session.setMode mode with
  | ok session =>
      obtain ⟨-, rfl⟩ := (c.state.session.setMode_eq_ok_iff _ _).1 hset
      rfl
  | error e => rfl

theorem handlePayload_eq (c : Console σ) (label : String) (text : String) :
    c.handlePayload label text =
      { c with state := c.state.after (c.state.planPayload label text).changes }.pursue label
        (c.state.planPayload label text).intent := by
  unfold handlePayload ClientState.planPayload
  cases Event.decode text with
  | ok e => exact c.handleEvent_eq label e
  | error e => rfl

/-- Every operation makes the changes of its plan and then pursues the intent of its plan. -/
theorem perform_eq (c : Console σ) (label : String) (op : Operation σ) :
    c.perform label op = (c.staged label op).pursue label (c.plan label op).intent := by
  cases op with
  | setMode mode => exact c.setMode_eq label mode
  | selectTest kind => exact c.configure_eq label _
  | configure edit => exact c.configure_eq label edit
  | payload text => exact c.handlePayload_eq label text
  | event e => exact c.handleEvent_eq label e
  | submit _ | record _ _ | reset | connected | disconnected | sinkChanged _ => rfl

/-! ## Every operation follows a path -/

theorem path_submit (c : Console σ) (intent : Intent) (label : String) :
    Path c.state [c.submitted label intent] (c.submit intent label).2.state := by
  have hsub := c.submission intent label
  generalize c.submit intent label = result at hsub ⊢
  cases hsub with
  | sent command sink henc hsend =>
      have hmade : c.submitted label intent = .sent intent label command := by
        simp [submitted, henc, hsend]
      have hallowed := ((intent.encode_eq_ok_iff _ _ _ _).1 henc).1
      exact hmade ▸ Path.one (.sent intent label command) hallowed
  | refused command e sink henc hsend =>
      have hmade : c.submitted label intent =
          .noted label .error (Rejection.delivery e).message := by
        simp [submitted, henc, hsend]
      exact hmade ▸ Path.one (.noted label .error _) trivial
  | rejected r henc =>
      have hmade : c.submitted label intent = .noted label .error r.message := by
        simp [submitted, henc]
      exact hmade ▸ Path.one (.noted label .error _) trivial

theorem submitted_ne_reset (c : Console σ) (label : String) (intent : Intent) :
    c.submitted label intent ≠ .reset := by
  unfold submitted
  split
  · nofun
  · split <;> nofun

/-- The changes of an operation lead to the state after it. -/
theorem path_perform (c : Console σ) (label : String) (op : Operation σ) :
    Path c.state (c.changes label op) (c.perform label op).state := by
  have hplan : Path c.state (c.plan label op).changes (c.staged label op).state :=
    path_plan c.state label c.reconnectDelayMs op
  rw [perform_eq]
  refine hplan.append ?_
  cases (c.plan label op).intent with
  | none => exact .nil _
  | some intent => exact path_submit _ intent label

/-! ## Runs -/

/-- Carries out operations one after the other, each in its tick. -/
def run (c : Console σ) : List (String × Operation σ) → Console σ
  | [] => c
  | (label, op) :: rest => (c.perform label op).run rest

/-- The changes that operations make, oldest first. -/
def history (c : Console σ) : List (String × Operation σ) → List Change
  | [] => []
  | (label, op) :: rest => c.changes label op ++ (c.perform label op).history rest

/-- **What a run does to the state is its history,** every change of it allowed when it is made. -/
theorem path_run (c : Console σ) (ops : List (String × Operation σ)) :
    Path c.state (c.history ops) (c.run ops).state := by
  induction ops generalizing c with
  | nil => exact .nil c.state
  | cons head rest ih =>
      obtain ⟨label, op⟩ := head
      exact (c.path_perform label op).append (ih (c.perform label op))

/-! ## The journal of a run -/

/-- A journal does not change what a submission does to the state. -/
theorem submitted_bare (c : Console (Journal σ)) (label : String) (intent : Intent) :
    c.bare.submitted label intent = c.submitted label intent := by
  unfold submitted
  have henc : intent.encode c.bare.state.request c.bare.state.session
        (CommandSink.isConnected c.bare.sink) =
      intent.encode c.state.request c.state.session (CommandSink.isConnected c.sink) := rfl
  rw [henc]
  cases intent.encode c.state.request c.state.session (CommandSink.isConnected c.sink) with
  | error r => rfl
  | ok command => simp only [bare, Journal.send_sink]

/-- The journal of a console grows by the command among the changes of a submission. -/
theorem accepted_submit (c : Console (Journal σ)) (intent : Intent) (label : String) :
    (c.submit intent label).2.sink.accepted =
      c.sink.accepted ++ [c.bare.submitted label intent].filterMap Change.command? := by
  have hsub := c.submission intent label
  rw [submitted_bare]
  generalize c.submit intent label = result at hsub ⊢
  cases hsub with
  | sent command sink henc hsend =>
      have hacc := Journal.accepted_send command c.sink
      simp only [hsend] at hacc
      simp [submitted, henc, hsend, Change.command?, hacc]
  | refused command e sink henc hsend =>
      have hacc := Journal.accepted_send command c.sink
      simp only [hsend] at hacc
      simp [submitted, henc, hsend, Change.command?, hacc]
  | rejected r henc => simp [submitted, henc, Change.command?]

omit [CommandSink σ] in
/-- An operation plans the same with a journal as without one. -/
theorem staged_journaled (c : Console (Journal σ)) (label : String) (op : Operation σ) :
    c.plan label op.journaled = c.bare.plan label op ∧
      (c.staged label op.journaled).bare = c.bare.staged label op ∧
      (c.staged label op.journaled).sink.accepted = c.sink.accepted := by
  have hplan : c.plan label op.journaled = c.bare.plan label op := op.plan_journaled _ _ _
  refine ⟨hplan, ?_, ?_⟩
  · simp only [bare, staged, op.sinkAfter_journaled, hplan]
  · simp only [staged, op.sinkAfter_journaled]

/-- A journal changes nothing of what an operation does, and takes down the commands among its
    changes. -/
theorem perform_journaled (c : Console (Journal σ)) (label : String) (op : Operation σ) :
    (c.perform label op.journaled).bare = c.bare.perform label op ∧
      (c.perform label op.journaled).sink.accepted =
        c.sink.accepted ++ (c.bare.changes label op).filterMap Change.command? := by
  obtain ⟨hplan, hbare, haccepted⟩ := c.staged_journaled label op
  have hplanned : (c.bare.plan label op).changes.filterMap Change.command? = [] :=
    commands_plan c.state label c.reconnectDelayMs op
  simp only [perform_eq, changes, List.filterMap_append, hplan]
  rw [hplanned, ← hbare, ← haccepted, List.nil_append]
  cases (c.bare.plan label op).intent with
  | none => exact ⟨rfl, (List.append_nil _).symm⟩
  | some intent =>
      have hsubmit := (c.staged label op.journaled).bare_submit intent label
      exact ⟨(congrArg Prod.snd hsubmit).symm, accepted_submit _ intent label⟩

/-- The same operations on a console whose sink has a journal. -/
def journaled (ops : List (String × Operation σ)) : List (String × Operation (Journal σ)) :=
  ops.map (fun (label, op) => (label, op.journaled))

/-- **A journal changes nothing of what a run does, and takes down the commands of its history.** -/
theorem run_journaled (c : Console (Journal σ)) (ops : List (String × Operation σ)) :
    (c.run (journaled ops)).bare = c.bare.run ops ∧
      (c.run (journaled ops)).sink.accepted =
        c.sink.accepted ++ (c.bare.history ops).filterMap Change.command? := by
  induction ops generalizing c with
  | nil => exact ⟨rfl, (List.append_nil _).symm⟩
  | cons head rest ih =>
      obtain ⟨label, op⟩ := head
      obtain ⟨hbare, haccepted⟩ := c.perform_journaled label op
      obtain ⟨hbareRest, hacceptedRest⟩ := ih (c.perform label op.journaled)
      rw [hbare] at hbareRest hacceptedRest
      refine ⟨hbareRest, ?_⟩
      show ((c.perform label op.journaled).run (journaled rest)).sink.accepted =
        c.sink.accepted ++ (c.bare.changes label op ++
          (c.bare.perform label op).history rest).filterMap Change.command?
      rw [hacceptedRest, haccepted, List.filterMap_append, List.append_assoc]

end Console

end NetGauge
