import NetGauge.Proofs.Console.Footprint

set_option autoImplicit false

/-! # What the log tells of a run

Everything that happens to a console leaves its entry in the log, and the log keeps the newest two
hundred. What a change adds does not depend on what is in the log already (`Change.entries`), so the
entries that were pushed over a whole run can be listed, also those that the log has lost by now
(`Console.pushed`), and the log is the end of this list (`log_after`).

Of the changes only a note can add an error (`errors_entries`). A run therefore pushes one error for
each refusal and each failure that it meets, in their order, and no others (`Console.run_log`). -/

namespace NetGauge

/-! ## What a change adds -/

/-- Whether an entry tells of an error. -/
def LogEntry.isError (entry : LogEntry) : Bool := entry.level == .error

/-- What a change adds to the log: what it leaves in an empty one. -/
def Change.entries (s : ClientState) (change : Change) : List LogEntry :=
  (change.apply { s with log := .empty }).log.toList

/-- The error that a change notes. -/
def Change.error? : Change → Option LogEntry
  | noted label .error message => some ⟨label, .error, message⟩
  | _ => none

/-- A way to change the log that adds one entry at most, the same whatever is in the log. -/
def Adds (write : ActivityLog → ActivityLog) (added : Option LogEntry) : Prop :=
  ∀ log, write log = log.pushAll added.toList

section

variable (s : ClientState) (label : String)

theorem log_prepared : (Console.prepared s).log = s.log := by
  unfold Console.prepared
  split <;> rfl

theorem log_begun : (Console.begun s).log = s.log := by
  unfold Console.begun
  split <;> rfl

theorem adds_record (level : LogLevel) (message : String) :
    Adds (fun log => log.record label level message) (some ⟨label, level, message⟩) := fun _ => rfl

/-- A command that went out adds no error. -/
theorem adds_applySent (intent : Intent) :
    ∃ added, Adds (fun log => (Console.applySent { s with log := log } label intent).log) added ∧
      ∀ entry ∈ added, entry.isError = false := by
  cases intent with
  | startTest =>
      refine ⟨some ⟨label, .info, "Starting " ++ s.request.kind.label ++ " to " ++ s.request.target⟩,
        ?_, by simp [LogEntry.isError]⟩
      intro log
      simp only [Console.applySent, ClientState.note, log_begun, log_prepared]
      rfl
  | stopTest =>
      cases hstop : s.session.requestStop with
      | ok stopped =>
          refine ⟨some ⟨label, .info, "Stopping " ++ stopped.1.label⟩, ?_, by simp [LogEntry.isError]⟩
          intro log
          simp only [Console.applySent, hstop]
          rfl
      | error e =>
          refine ⟨none, ?_, by simp⟩
          intro log
          simp only [Console.applySent, hstop]
          rfl
  | startServer server | stopServer server =>
      exact ⟨some ⟨label, .info, _⟩, fun _ => rfl, by simp [LogEntry.isError]⟩
  | refreshServerStatus | requestStats => exact ⟨none, fun _ => rfl, by simp⟩

/-- An event adds no error by itself: one that tells of an error leaves it to the console. -/
theorem adds_dispatch (e : Event) :
    ∃ added, Adds (fun log => (ClientState.dispatch label { s with log := log } e).1.log) added ∧
      ∀ entry ∈ added, entry.isError = false := by
  cases e with
  | testStarted message =>
      cases message with
      | some text => exact ⟨some ⟨label, .info, text⟩, fun _ => rfl, by simp [LogEntry.isError]⟩
      | none => exact ⟨none, fun _ => rfl, by simp⟩
  | progress _ | error _ | serverStatus _ | sweepProgress _ => exact ⟨none, fun _ => rfl, by simp⟩
  | testComplete _ | sweepComplete _ =>
      simp only [ClientState.dispatch, ClientState.note, ClientState.report]
      exact ⟨_, adds_record label .success _, by simp [LogEntry.isError]⟩
  | _ =>
      simp only [ClientState.dispatch, ClientState.note]
      exact ⟨_, adds_record label .info _, by simp [LogEntry.isError]⟩

/-- **A change adds one entry at most,** and an error only if it notes one. -/
theorem adds_apply (change : Change) :
    ∃ added, Adds (fun log => (change.apply { s with log := log }).log) added ∧
      added.filter LogEntry.isError = change.error? := by
  have hnews {added : Option LogEntry} (h : ∀ entry ∈ added, entry.isError = false) :
      added.filter LogEntry.isError = none := by
    rw [Option.filter_eq_none_iff]
    intro entry hentry
    simp [h entry hentry]
  cases change with
  | noted label level message =>
      refine ⟨some ⟨label, level, message⟩, fun _ => rfl, ?_⟩
      cases level <;> rfl
  | sent intent label command =>
      obtain ⟨added, hadds, hnone⟩ := adds_applySent s label intent
      exact ⟨added, hadds, hnews hnone⟩
  | dispatched label e =>
      obtain ⟨added, hadds, hnone⟩ := adds_dispatch s label e
      exact ⟨added, hadds, hnews hnone⟩
  | linked _ | modeSet _ | edited _ | reset => exact ⟨none, fun _ => rfl, rfl⟩

theorem entries_of_adds {change : Change} {added : Option LogEntry}
    (h : Adds (fun log => (change.apply { s with log := log }).log) added) :
    change.entries s = added.toList := by
  have hlength : added.toList.length ≤ activityCapacity := by
    cases added <;> simp [activityCapacity]
  have hlog : (change.apply { s with log := .empty }).log =
      (Recent.empty : ActivityLog).pushAll added.toList :=
    h .empty
  rw [Change.entries, hlog, Recent.toList_pushAll]
  exact lastItems_of_length_le _ _ hlength

theorem entries_noted (level : LogLevel) (message : String) :
    (Change.noted label level message).entries s = [⟨label, level, message⟩] := by
  have hadds : Adds (fun log => ((Change.noted label level message).apply { s with log := log }).log)
      (some ⟨label, level, message⟩) := fun _ => rfl
  exact entries_of_adds s hadds

/-- What is in the log makes no difference to what a change adds. -/
theorem log_apply (change : Change) :
    (change.apply s).log = s.log.pushAll (change.entries s) := by
  obtain ⟨added, hadds, -⟩ := adds_apply s change
  rw [entries_of_adds s hadds]
  exact hadds s.log

theorem errors_entries (change : Change) :
    (change.entries s).filter LogEntry.isError = change.error?.toList := by
  obtain ⟨added, hadds, herror⟩ := adds_apply s change
  rw [entries_of_adds s hadds, ← herror]
  cases added with
  | none => rfl
  | some entry => cases h : entry.isError <;> simp [Option.filter, h]

end

/-! ## What is added along the way -/

namespace ClientState

/-- The entries that changes add, oldest first. -/
def entriesAlong (s : ClientState) : List Change → List LogEntry
  | [] => []
  | change :: later => change.entries s ++ (change.apply s).entriesAlong later

variable (s : ClientState)

theorem entriesAlong_append (xs ys : List Change) :
    s.entriesAlong (xs ++ ys) = s.entriesAlong xs ++ (s.after xs).entriesAlong ys := by
  induction xs generalizing s with
  | nil => rfl
  | cons x xs ih =>
      simp only [List.cons_append, entriesAlong, ih, List.append_assoc]
      rfl

/-- The log goes along with the entries that are pushed. -/
theorem log_after (changes : List Change) :
    (s.after changes).log = s.log.pushAll (s.entriesAlong changes) := by
  induction changes generalizing s with
  | nil => rfl
  | cons change later ih =>
      have hlater : (s.after (change :: later)).log = _ := ih (change.apply s)
      rw [hlater, log_apply, entriesAlong]
      exact List.foldl_append.symm

/-- The errors among the entries are those that changes note. -/
theorem errors_entriesAlong (changes : List Change) :
    (s.entriesAlong changes).filter LogEntry.isError = changes.filterMap Change.error? := by
  induction changes generalizing s with
  | nil => rfl
  | cons change later ih =>
      rw [entriesAlong, List.filter_append, errors_entries, ih, List.filterMap_cons]
      cases change.error? <;> rfl

end ClientState

/-! ## Complaints -/

namespace Console

variable {σ : Type} [CommandSink σ]

/-- The error that tells of a refusal, if there was one. -/
def refusal {ε : Type} (message : ε → String) (label : String) : Except ε Unit → List LogEntry
  | .ok () => []
  | .error e => [⟨label, .error, message e⟩]

/-- The error that tells of a link that went down. -/
def disconnection (delay : UInt64) (label : String) : LogEntry :=
  ⟨label, .error, "Disconnected from backend, reconnecting in " ++ Measure.delay delay⟩

/-- The error if the console is refused when it asks for the status of the servers by itself. -/
def refreshRefusal (sink : σ) (label : String) : List LogEntry :=
  refusal Rejection.message label (answer .getServerStatus sink)

/-- The errors for an event: the one that it tells of, or a refusal of what it makes the console ask
    for. -/
def eventComplaints (c : Console σ) (label : String) : Event → List LogEntry
  | .error message => [⟨label, .error, message⟩]
  | .serverLifecycle .. => refreshRefusal c.sink label
  | _ => []

/-- The errors that there are to tell of an operation: that it was refused, what the backend complains of,
    that the link is down, or what was to be recorded as an error. -/
def complaints (c : Console σ) (label : String) : Operation σ → List LogEntry
  | .submit intent => refusal Rejection.message label (c.submit intent label).1
  | .setMode mode => refusal SessionError.message label (c.setMode label mode).1
  | .selectTest kind => refusal SessionError.message label (c.selectTest label kind).1
  | .configure edit => refusal SessionError.message label (c.configure label edit).1
  | .record .error message => [⟨label, .error, message⟩]
  | .record .. => []
  | .payload text => (Event.decode text).toOption.elim [] (c.eventComplaints label)
  | .event e => c.eventComplaints label e
  | .connected => refreshRefusal c.sink label
  | .disconnected => [disconnection c.reconnectDelayMs label]
  | .reset | .sinkChanged _ => []

/-- The errors that there are to tell of operations, oldest first. -/
def complaintsAlong (c : Console σ) : List (String × Operation σ) → List LogEntry
  | [] => []
  | (label, op) :: rest => c.complaints label op ++ (c.perform label op).complaintsAlong rest

omit [CommandSink σ] in
theorem sink_staged (c : Console σ) (label : String) (op : Operation σ) :
    (c.staged label op).sink = op.sinkAfter c.sink := rfl

/-- A submission notes an error exactly if it is refused. -/
theorem error?_submitted (c : Console σ) (label : String) (intent : Intent) :
    (c.submitted label intent).error?.toList =
      refusal Rejection.message label (c.submit intent label).1 := by
  have hsub := c.submission intent label
  generalize c.submit intent label = result at hsub ⊢
  cases hsub with
  | sent command sink henc hsend => simp [submitted, henc, hsend, Change.error?, refusal]
  | refused command e sink henc hsend => simp [submitted, henc, hsend, Change.error?, refusal]
  | rejected r henc => simp [submitted, henc, Change.error?, refusal]

/-- Asking for the status of the servers is refused by nothing but the sink. -/
theorem errors_pursued_refresh (c : Console σ) (label : String) :
    (c.pursued label (some .refreshServerStatus)).filterMap Change.error? = refreshRefusal c.sink label := by
  have hallowed : Intent.refreshServerStatus.allowed c.state.request c.state.session =
      .ok .getServerStatus := rfl
  have hanswer := c.submit_of_allowed hallowed label
  have herror := c.error?_submitted label .refreshServerStatus
  rw [hanswer] at herror
  rw [pursued, List.filterMap_cons, refreshRefusal, ← herror]
  cases (c.submitted label .refreshServerStatus).error? <;> rfl

/-- The error of which an event tells. -/
theorem errors_planEvent (s : ClientState) (label : String) (e : Event) :
    (s.planEvent label e).changes.filterMap Change.error? =
      match e with
      | .error message => [⟨label, .error, message⟩]
      | _ => [] := by
  cases e with
  | testStarted message => cases message <;> rfl
  | _ => rfl

theorem errors_event (c : Console σ) (label : String) (e : Event) :
    (c.changes label (.event e)).filterMap Change.error? = c.eventComplaints label e := by
  have hplan : c.plan label (.event e) = c.state.planEvent label e := rfl
  have hsink : (c.staged label (.event e)).sink = c.sink := c.sink_staged label (.event e)
  have hintent := c.state.planEvent_intent label e
  rw [changes, List.filterMap_append, hplan, hintent, errors_planEvent]
  cases e with
  | serverLifecycle source phase message =>
      rw [List.nil_append, Event.asksForStatus, if_pos rfl, errors_pursued_refresh, hsink,
        eventComplaints]
  | _ => rfl

theorem errors_configure (c : Console σ) (label : String) (edit : TestRequest → TestRequest) :
    (c.changes label (.configure edit)).filterMap Change.error? =
      refusal SessionError.message label (c.configure label edit).1 := by
  cases hfree : c.state.session.checkReconfigure with
  | ok _ =>
      simp [changes, plan, Operation.plan, ClientState.planEdit, configure, hfree, pursued, refusal,
        Change.error?]
  | error e =>
      simp [changes, plan, Operation.plan, ClientState.planEdit, configure, hfree, pursued, refusal,
        Change.error?]

theorem errors_setMode (c : Console σ) (label : String) (mode : Mode) :
    (c.changes label (.setMode mode)).filterMap Change.error? =
      refusal SessionError.message label (c.setMode label mode).1 := by
  cases hset : c.state.session.setMode mode with
  | ok session =>
      simp [changes, plan, Operation.plan, ClientState.planMode, setMode, hset, pursued, refusal,
        Change.error?]
  | error e =>
      simp [changes, plan, Operation.plan, ClientState.planMode, setMode, hset, pursued, refusal,
        Change.error?]

/-- A text that cannot be understood is ignored. -/
theorem changes_ignored (c : Console σ) (label : String) {text : String} {e : DecodeError}
    (h : Event.decode text = .error e) :
    c.changes label (.payload text) = [.noted label .info ("Ignored message: " ++ e.message)] := by
  simp [changes, plan, Operation.plan, ClientState.planPayload, h, pursued]

theorem errors_payload (c : Console σ) (label text : String) :
    (c.changes label (.payload text)).filterMap Change.error? =
      (Event.decode text).toOption.elim [] (c.eventComplaints label) := by
  cases hdecode : Event.decode text with
  | ok e =>
      have hplan : c.plan label (.payload text) = c.plan label (.event e) := by
        simp [plan, Operation.plan, ClientState.planPayload, hdecode]
      have hstaged : c.staged label (.payload text) = c.staged label (.event e) := by
        simp only [staged, hplan, Operation.sinkAfter]
      have hevent := c.errors_event label e
      rw [changes, ← hplan, ← hstaged] at hevent
      exact hevent
  | error e => rw [c.changes_ignored label hdecode]; rfl

/-- **An operation notes the errors that there are to tell of it,** and no others. -/
theorem errors_changes (c : Console σ) (label : String) (op : Operation σ) :
    (c.changes label op).filterMap Change.error? = c.complaints label op := by
  cases op with
  | submit intent =>
      have herror := c.error?_submitted label intent
      rw [complaints, ← herror]
      show [c.submitted label intent].filterMap Change.error? = _
      rw [List.filterMap_cons]
      cases (c.submitted label intent).error? <;> rfl
  | setMode mode => exact c.errors_setMode label mode
  | selectTest kind => exact c.errors_configure label _
  | configure edit => exact c.errors_configure label edit
  | record level message => cases level <;> rfl
  | payload text => exact c.errors_payload label text
  | event e => exact c.errors_event label e
  | connected =>
      have hplan : (c.plan label .connected).changes.filterMap Change.error? = [] := rfl
      have hintent : (c.plan label .connected).intent = some .refreshServerStatus := rfl
      have hsink : (c.staged label .connected).sink = c.sink := c.sink_staged label .connected
      rw [changes, List.filterMap_append, hplan, hintent, errors_pursued_refresh, hsink,
        List.nil_append, complaints]
  | disconnected | reset | sinkChanged _ => rfl

theorem errors_history (c : Console σ) (ops : List (String × Operation σ)) :
    (c.history ops).filterMap Change.error? = c.complaintsAlong ops := by
  induction ops generalizing c with
  | nil => rfl
  | cons head rest ih =>
      obtain ⟨label, op⟩ := head
      rw [history, List.filterMap_append, errors_changes, ih, complaintsAlong]

/-- The entries that a run pushes, oldest first. -/
def pushed (c : Console σ) (ops : List (String × Operation σ)) : List LogEntry :=
  c.state.entriesAlong (c.history ops)

theorem pushed_cons (c : Console σ) (label : String) (op : Operation σ)
    (rest : List (String × Operation σ)) :
    c.pushed ((label, op) :: rest) =
      c.state.entriesAlong (c.changes label op) ++ (c.perform label op).pushed rest := by
  have hstate := (c.path_perform label op).eq_after
  rw [pushed, history, ClientState.entriesAlong_append, ← hstate, pushed]

theorem pushed_singleton (c : Console σ) (label : String) (op : Operation σ) :
    c.pushed [(label, op)] = c.state.entriesAlong (c.changes label op) :=
  (c.pushed_cons label op []).trans (List.append_nil _)

/-- **The log of a run.** Whatever was done to a new console, in whatever order and however its sink
    behaved: the log holds the last two hundred of the entries that were pushed, in the order in which they
    were pushed. The errors among all that were pushed are one for each refusal, each complaint of the
    backend, each loss of the link and each error that was to be recorded; and a text that cannot be
    understood makes for one entry, which is no error. -/
theorem run_log (config : ClientConfig) (sink : σ) (ops : List (String × Operation σ)) :
    let c := Console.new config sink
    (c.run ops).state.log.toList = lastItems 200 (c.pushed ops) ∧
    (c.pushed ops).filter LogEntry.isError = c.complaintsAlong ops ∧
    ∀ label text e, Event.decode text = .error e →
      (c.run ops).pushed [(label, .payload text)] =
        [⟨label, .info, "Ignored message: " ++ e.message⟩] := by
  intro c
  refine ⟨?_, ?_, ?_⟩
  · have hstate := (c.path_run ops).eq_after
    have hlog := c.state.log_after (c.history ops)
    rw [hstate, hlog, Recent.toList_pushAll]
    rfl
  · have herrors := c.state.errors_entriesAlong (c.history ops)
    rw [pushed, herrors, errors_history]
  · intro label text e hdecode
    rw [pushed_singleton, changes_ignored _ label hdecode, ClientState.entriesAlong, entries_noted]
    rfl

/-- A test that cannot be started for want of a connection, and a link that goes down. -/
def twoErrors : List (String × Operation Link.Handle) :=
  [("1", .submit .startTest), ("2", .disconnected)]

theorem run_log_twoErrors :
    let c := (Console.new {} ({} : Link.Handle)).run twoErrors
    ∃ e, Event.decode "junk" = .error e ∧
      c.pushed [("3", .payload "junk")] = [⟨"3", .info, "Ignored message: " ++ e.message⟩] := by
  intro c
  obtain ⟨e, hdecode⟩ : ∃ e, Event.decode "junk" = .error e := by
    have hfails : (Event.decode "junk").isOk = false := by decide +kernel
    cases hdecode : Event.decode "junk" with
    | ok _ => rw [hdecode] at hfails; cases hfails
    | error e => exact ⟨e, rfl⟩
  obtain ⟨-, -, hignored⟩ := run_log {} ({} : Link.Handle) twoErrors
  exact ⟨e, hdecode, hignored "3" "junk" e hdecode⟩

end Console

end NetGauge
