import NetGauge.Proofs.Console.History

set_option autoImplicit false

/-! # What a run is told

Of all the changes that a run makes, three kinds are given by its operations alone, whatever the sink
and the state: the events that are dispatched, the link going up and down, and the resets
(`Console.signals_history`). What depends only on these can be computed from what was done to a
console, without running it; the connectivity is the first such thing (`Console.run_connectivity`). -/

namespace NetGauge

/-- An event that is dispatched, a new state of the link, or a reset. -/
inductive Signal where
  | event (e : Event)
  | linked (connectivity : Connectivity)
  | reset

def Change.signal? : Change → Option Signal
  | dispatched _ e => some (.event e)
  | linked connectivity => some (.linked connectivity)
  | reset => some .reset
  | _ => none

namespace Operation

variable {σ : Type}

/-- A payload that cannot be understood is no event. -/
def signal? : Operation σ → Option Signal
  | event e => some (.event e)
  | payload text => (Event.decode text).toOption.map .event
  | connected => some (.linked .connected)
  | disconnected => some (.linked .disconnected)
  | reset => some .reset
  | _ => none

end Operation

/-! ## Signals and changes -/

section

variable (s : ClientState) (label : String)

theorem signals_planEvent (e : Event) :
    (s.planEvent label e).changes.filterMap Change.signal? = [.event e] := by
  unfold ClientState.planEvent
  cases (s.dispatch label e).2 <;> rfl

theorem signals_planEdit (edit : TestRequest → TestRequest) :
    (s.planEdit label edit).changes.filterMap Change.signal? = [] := by
  unfold ClientState.planEdit
  cases s.session.checkReconfigure <;> rfl

theorem signals_planMode (mode : Mode) :
    (s.planMode label mode).changes.filterMap Change.signal? = [] := by
  unfold ClientState.planMode
  cases s.session.setMode mode <;> rfl

theorem signals_planPayload (text : String) :
    (s.planPayload label text).changes.filterMap Change.signal? =
      ((Event.decode text).toOption.map Signal.event).toList := by
  unfold ClientState.planPayload
  cases Event.decode text with
  | ok e => exact signals_planEvent s label e
  | error e => rfl

theorem signals_plan {σ : Type} (delay : UInt64) (op : Operation σ) :
    (op.plan s delay label).changes.filterMap Change.signal? = op.signal?.toList := by
  cases op with
  | setMode mode => exact signals_planMode s label mode
  | selectTest kind => exact signals_planEdit s label _
  | configure edit => exact signals_planEdit s label edit
  | payload text => exact signals_planPayload s label text
  | event e => exact signals_planEvent s label e
  | submit _ | record _ _ | reset | connected | disconnected | sinkChanged _ => rfl

end

/-- What a signal makes of the link. -/
def Signal.link (before : Connectivity) : Signal → Connectivity
  | linked connectivity => connectivity
  | _ => before

theorem connectivity_apply (s : ClientState) (change : Change) :
    (change.apply s).connectivity = change.signal?.toList.foldl Signal.link s.connectivity := by
  cases change with
  | dispatched label e => exact s.connectivity_dispatch label e
  | sent intent label command => exact Console.connectivity_applySent s label intent
  | noted label level message => exact s.connectivity_note label level message
  | linked _ | modeSet _ | edited _ | reset => rfl

theorem connectivity_after (s : ClientState) (changes : List Change) :
    (s.after changes).connectivity =
      (changes.filterMap Change.signal?).foldl Signal.link s.connectivity := by
  induction changes generalizing s with
  | nil => rfl
  | cons change later ih =>
      have hlater : (s.after (change :: later)).connectivity = _ := ih (change.apply s)
      rw [hlater, connectivity_apply, List.filterMap_cons]
      cases change.signal? <;> rfl

/-! ## Signals and operations -/

namespace Console

variable {σ : Type}

/-- The signals that operations give, oldest first. -/
def signals (ops : List (String × Operation σ)) : List Signal := ops.filterMap (fun op => op.2.signal?)

theorem signals_cons (op : String × Operation σ) (rest : List (String × Operation σ)) :
    signals (op :: rest) = op.2.signal?.toList ++ signals rest := by
  rw [signals, List.filterMap_cons]
  cases op.2.signal? <;> rfl

variable [CommandSink σ]

theorem signal?_submitted (c : Console σ) (label : String) (intent : Intent) :
    (c.submitted label intent).signal? = none := by
  unfold submitted
  split
  · rfl
  · split <;> rfl

theorem signals_changes (c : Console σ) (label : String) (op : Operation σ) :
    (c.changes label op).filterMap Change.signal? = op.signal?.toList := by
  have hplan := signals_plan c.state label c.reconnectDelayMs op
  rw [changes, List.filterMap_append, plan, hplan]
  cases (op.plan c.state c.reconnectDelayMs label).intent with
  | none => exact List.append_nil _
  | some intent => simp [pursued, signal?_submitted]

/-- **The signals in the history of a run are those of its operations.** -/
theorem signals_history (c : Console σ) (ops : List (String × Operation σ)) :
    (c.history ops).filterMap Change.signal? = signals ops := by
  induction ops generalizing c with
  | nil => rfl
  | cons head rest ih =>
      obtain ⟨label, op⟩ := head
      rw [history, List.filterMap_append, signals_changes, ih, signals_cons]

/-- Whichever way an event comes, it is handled. -/
theorem perform_of_signal? (c : Console σ) (label : String) {op : Operation σ} {e : Event}
    (h : op.signal? = some (.event e)) : c.perform label op = c.handleEvent label e := by
  cases op with
  | event e' => cases h; rfl
  | payload text =>
      rw [Operation.signal?] at h
      cases hdecode : Event.decode text with
      | ok e' =>
          rw [hdecode] at h
          cases h
          simp only [perform, handlePayload, hdecode]
      | error err => rw [hdecode] at h; cases h
  | _ => cases h

theorem run_append (c : Console σ) (xs ys : List (String × Operation σ)) :
    c.run (xs ++ ys) = (c.run xs).run ys := by
  induction xs generalizing c with
  | nil => rfl
  | cons head rest ih => exact ih _

/-- After any run the link is what the last of its signals about the link says. -/
theorem run_connectivity (c : Console σ) (ops : List (String × Operation σ)) :
    (c.run ops).state.connectivity = (signals ops).foldl Signal.link c.state.connectivity := by
  rw [(c.path_run ops).eq_after, connectivity_after, signals_history]

end Console

end NetGauge
