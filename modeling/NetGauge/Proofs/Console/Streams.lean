import NetGauge.Proofs.Console.Charts
import NetGauge.Proofs.Console.Log

set_option autoImplicit false

/-! # Independent streams of events

The backend sends reports of progress while it tells of other things, and the two streams reach the client
in any interleaving. It makes no difference in which: a report of progress goes to the charts and to the
latest figures and into no other part, no event without figures reads or writes either of the two
(`ClientState.dispatch_report`), and a report pushes no entry. Each event of the one stream therefore
commutes with each of the other, and with them the streams (`Interleaving.foldl_eq`): the console ends up
the same, and has pushed the same entries in the same order (`Console.run_interleaving`). -/

namespace NetGauge

/-! ## Interleavings -/

/-- A list that is made of two others, each in its order. -/
inductive Interleaving {α : Type} : List α → List α → List α → Prop
  | nil : Interleaving [] [] []
  | left {x : α} {xs ys zs : List α} (rest : Interleaving xs ys zs) : Interleaving (x :: xs) ys (x :: zs)
  | right {y : α} {xs ys zs : List α} (rest : Interleaving xs ys zs) : Interleaving xs (y :: ys) (y :: zs)

section

variable {α β : Type} {f : β → α → β} {xs ys zs : List α}

/-- An item that commutes with all of a list can as well come after the list. -/
theorem foldl_past {x : α} (hcomm : ∀ y ∈ ys, ∀ b, f (f b x) y = f (f b y) x) (b : β) :
    ys.foldl f (f b x) = f (ys.foldl f b) x := by
  induction ys generalizing b with
  | nil => rfl
  | cons y rest ih =>
      have hfirst : f (f b x) y = f (f b y) x := hcomm y List.mem_cons_self b
      rw [List.foldl_cons, List.foldl_cons, hfirst]
      exact ih (fun z hz => hcomm z (List.mem_cons_of_mem y hz)) (f b y)

/-- Where the items of two lists commute, the second list may as well come first as a whole. -/
theorem Interleaving.foldl_eq (h : Interleaving xs ys zs)
    (hcomm : ∀ x ∈ xs, ∀ y ∈ ys, ∀ b, f (f b x) y = f (f b y) x) (b : β) :
    zs.foldl f b = xs.foldl f (ys.foldl f b) := by
  induction h generalizing b with
  | nil => rfl
  | left rest ih =>
      have hrest := ih (fun x hx => hcomm x (List.mem_cons_of_mem _ hx))
      have hpast := foldl_past (hcomm _ List.mem_cons_self)
      rw [List.foldl_cons, hrest, hpast, List.foldl_cons]
  | right rest ih =>
      have hrest := ih (fun x hx y hy => hcomm x hx y (List.mem_cons_of_mem _ hy))
      rw [List.foldl_cons, hrest, List.foldl_cons]

end

/-! ## Reports and other events -/

section

variable (s : ClientState) (m : Metrics) (label label' : String)

/-- **A report and an event without figures commute.** -/
theorem ClientState.dispatch_report {e : Event} (h : e.report? = none) :
    (s.report m label).dispatch label' e =
      ((s.dispatch label' e).1.report m label, (s.dispatch label' e).2) := by
  cases e with
  | progress _ | testComplete _ => cases h
  | testStarted message => cases message <;> simp only [dispatch, report, note]
  | _ => simp only [dispatch, report, note]

/-- A change that has nothing to do with figures: it can as well be made before a report. -/
def Change.SparesFigures (change : Change) : Prop :=
  ∀ (s : ClientState) (m : Metrics) (label : String),
    change.apply (s.report m label) = (change.apply s).report m label

theorem sparesFigures_noted (level : LogLevel) (message : String) :
    (Change.noted label level message).SparesFigures := by
  intro s m label'
  simp only [Change.apply, ClientState.report, ClientState.note]

theorem sparesFigures_dispatched {e : Event} (h : e.report? = none) :
    (Change.dispatched label e).SparesFigures := by
  intro s m label'
  have hdispatch := s.dispatch_report m label' label h
  exact congrArg Prod.fst hdispatch

variable {changes : List Change}

theorem after_report (h : ∀ change ∈ changes, change.SparesFigures) :
    (s.report m label).after changes = (s.after changes).report m label := by
  induction changes generalizing s with
  | nil => rfl
  | cons change later ih =>
      have hfirst : change.apply (s.report m label) = _ := h change List.mem_cons_self s m label
      have hlater := ih (change.apply s) (fun x hx => h x (List.mem_cons_of_mem _ hx))
      rw [← hfirst] at hlater
      exact hlater

/-- What changes push is the same before and after a report. -/
theorem entriesAlong_report (h : ∀ change ∈ changes, change.SparesFigures) :
    (s.report m label).entriesAlong changes = s.entriesAlong changes := by
  induction changes generalizing s with
  | nil => rfl
  | cons change later ih =>
      have hfirst : change.SparesFigures := h change List.mem_cons_self
      have hlater := ih (change.apply s) (fun x hx => h x (List.mem_cons_of_mem _ hx))
      have hlog := congrArg ClientState.log (hfirst { s with log := .empty } m label)
      have hentries : change.entries (s.report m label) = change.entries s :=
        congrArg Recent.toList hlog
      rw [ClientState.entriesAlong, ClientState.entriesAlong, hentries, hfirst s m label, hlater]

theorem sparesFigures_planEvent {e : Event} (h : e.report? = none) :
    ∀ change ∈ (s.planEvent label e).changes, change.SparesFigures := by
  have hfirst := sparesFigures_dispatched label h
  unfold ClientState.planEvent
  cases (s.dispatch label e).2 with
  | nothing | refreshStatus => simpa using hfirst
  | reportError message => simpa using ⟨hfirst, sparesFigures_noted label .error message⟩

theorem planEvent_report {e : Event} (h : e.report? = none) :
    (s.report m label).planEvent label' e = s.planEvent label' e := by
  have hdispatch := congrArg Prod.snd (s.dispatch_report m label label' h)
  simp only [ClientState.planEvent, hdispatch]

end

namespace Console

variable {σ : Type}

/-- Takes the figures of a report. -/
def report (c : Console σ) (m : Metrics) (label : String) : Console σ :=
  { c with state := c.state.report m label }

variable [CommandSink σ] (c : Console σ) (m : Metrics) (label label' : String)

omit [CommandSink σ] in
theorem staged_report {e : Event} (h : e.report? = none) :
    (c.report m label).staged label' (.event e) = (c.staged label' (.event e)).report m label := by
  have hplan : (c.report m label).plan label' (.event e) = c.plan label' (.event e) :=
    planEvent_report c.state m label label' h
  have hafter := after_report c.state m label (sparesFigures_planEvent c.state label' h)
  rw [staged, hplan]
  exact congrArg (fun state => { c with state := state }) hafter

/-- Asking for the status of the servers has nothing to do with figures. -/
theorem refresh_report :
    (c.report m label).submit .refreshServerStatus label' =
      ((c.submit .refreshServerStatus label').1,
        (c.submit .refreshServerStatus label').2.report m label) := by
  have hdeliver : (c.report m label).deliver .refreshServerStatus = c.deliver .refreshServerStatus := by
    unfold deliver
    rfl
  unfold submit
  rw [hdeliver]
  rcases c.deliver .refreshServerStatus with ⟨_ | _, sink⟩
  · simp only [report, record, ClientState.report, ClientState.note]
  · simp only [report, applySent]

theorem sparesFigures_refresh : (c.submitted label .refreshServerStatus).SparesFigures := by
  unfold submitted
  split
  · exact sparesFigures_noted label .error _
  · split
    · exact fun _ _ _ => rfl
    · exact sparesFigures_noted label .error _

/-- The console does the same after an event without figures whether a report has come before it or
    not. -/
theorem handleEvent_report {e : Event} (h : e.report? = none) :
    (c.report m label).handleEvent label' e = (c.handleEvent label' e).report m label := by
  have hplan : (c.report m label).plan label' (.event e) = c.plan label' (.event e) :=
    planEvent_report c.state m label label' h
  have hintent : (c.plan label' (.event e)).intent = _ := c.state.planEvent_intent label' e
  have hleft := (c.report m label).perform_eq label' (.event e)
  have hright := c.perform_eq label' (.event e)
  rw [hplan, hintent, c.staged_report m label label' h] at hleft
  rw [hintent] at hright
  rw [← perform, ← perform, hleft, hright]
  split
  · exact congrArg Prod.snd (refresh_report _ m label label')
  · rfl

/-- The entries that it pushes are the same as well. -/
theorem pushed_report {e : Event} (h : e.report? = none) :
    (c.report m label).pushed [(label', .event e)] = c.pushed [(label', .event e)] := by
  have hplan : (c.report m label).plan label' (.event e) = c.plan label' (.event e) :=
    planEvent_report c.state m label label' h
  have hchanges : (c.report m label).changes label' (.event e) = c.changes label' (.event e) := by
    rw [changes, hplan, c.staged_report m label label' h, changes]
    cases (c.plan label' (.event e)).intent <;> rfl
  have hspares : ∀ change ∈ c.changes label' (.event e), change.SparesFigures := by
    intro change hmem
    have hintent : (c.plan label' (.event e)).intent = _ := c.state.planEvent_intent label' e
    rw [changes, hintent] at hmem
    rcases List.mem_append.1 hmem with hplanned | hpursued
    · exact sparesFigures_planEvent c.state label' h change hplanned
    · split at hpursued
      · rw [List.mem_singleton.1 hpursued]
        exact sparesFigures_refresh _ label'
      · cases hpursued
  rw [pushed_singleton, pushed_singleton, hchanges]
  exact entriesAlong_report c.state m label hspares

/-! ## Streams -/

/-- Events, each in its tick. -/
def events (es : List (String × Event)) : List (String × Operation σ) :=
  es.map (fun (label, e) => (label, .event e))

/-- A console with all that was pushed so far, and one more event. -/
def tell (told : Console σ × List LogEntry) (e : String × Event) : Console σ × List LogEntry :=
  (told.1.handleEvent e.1 e.2, told.2 ++ told.1.pushed [(e.1, .event e.2)])

theorem foldl_tell (es : List (String × Event)) (log : List LogEntry) :
    es.foldl tell (c, log) = (c.run (events es), log ++ c.pushed (events es)) := by
  induction es generalizing c log with
  | nil => simp [events, run, pushed, history, ClientState.entriesAlong]
  | cons head rest ih =>
      obtain ⟨label, e⟩ := head
      have hrest := ih (c.handleEvent label e) (log ++ c.pushed [(label, .event e)])
      have hpushed := c.pushed_cons label (.event e) (events rest)
      rw [List.foldl_cons, tell, hrest, pushed_singleton, List.append_assoc, ← perform, ← hpushed]
      rfl

theorem tell_progress (told : Console σ × List LogEntry) :
    tell told (label, .progress m) = (told.1.report m label, told.2) := by
  have hpushed : told.1.pushed [(label, .event (.progress m))] = [] := by
    rw [pushed_singleton]
    rfl
  rw [tell, hpushed, List.append_nil]
  rfl

/-- A report of progress commutes with an event without figures. -/
theorem tell_comm (told : Console σ × List LogEntry) {e : Event} (h : e.report? = none) :
    tell (tell told (label, .progress m)) (label', e) =
      tell (tell told (label', e)) (label, .progress m) := by
  rw [tell_progress, tell_progress, tell, tell, handleEvent_report _ m label label' h,
    pushed_report _ m label label' h]

/-- **Independent streams of events commute.** Let one stream consist of reports of progress and the other
    of events that report no figures, each event in a tick of its own choice. From whatever state a console
    starts, all interleavings of the two leave it the same, and push the same entries in the same order. -/
theorem run_interleaving {xs ys zs zs' : List (String × Event)}
    (hprogress : ∀ x ∈ xs, ∃ m, x.2 = .progress m) (hothers : ∀ y ∈ ys, y.2.report? = none)
    (h : Interleaving xs ys zs) (h' : Interleaving xs ys zs') (c : Console σ) :
    c.run (events zs) = c.run (events zs') ∧ c.pushed (events zs) = c.pushed (events zs') := by
  have hcomm : ∀ x ∈ xs, ∀ y ∈ ys, ∀ told : Console σ × List LogEntry,
      tell (tell told x) y = tell (tell told y) x := by
    rintro ⟨label, e⟩ hx ⟨label', e'⟩ hy told
    obtain ⟨m, rfl⟩ := hprogress _ hx
    exact tell_comm m label label' told (hothers _ hy)
  have hboth : zs.foldl tell (c, []) = zs'.foldl tell (c, []) :=
    (h.foldl_eq hcomm (c, [])).trans (h'.foldl_eq hcomm (c, [])).symm
  rw [foldl_tell, foldl_tell] at hboth
  exact ⟨congrArg Prod.fst hboth, congrArg Prod.snd hboth⟩

/-- A bandwidth, and one tick later a latency. -/
def twoFigures : List (String × Event) :=
  [("1", .progress { bandwidthMbps := some 940.0 }), ("2", .progress { latencyAvgUs := some 12.5 })]

/-- A sweep with one point. -/
def onePoint : List (String × Event) :=
  [("1", .sweepStarted none), ("1", .sweepPoint { payloadSize := 64 }), ("3", .sweepComplete [])]

/-- The figures come while the sweep goes on. -/
def figuresBetween : List (String × Event) :=
  [("1", .sweepStarted none), ("1", .progress { bandwidthMbps := some 940.0 }),
    ("1", .sweepPoint { payloadSize := 64 }), ("2", .progress { latencyAvgUs := some 12.5 }),
    ("3", .sweepComplete [])]

theorem run_interleaving_figuresBetween :
    let c := Console.new {} ({} : Link.Handle)
    (Interleaving twoFigures onePoint figuresBetween ∧
      Interleaving twoFigures onePoint (twoFigures ++ onePoint)) ∧
    c.run (events figuresBetween) = c.run (events (twoFigures ++ onePoint)) ∧
      c.pushed (events figuresBetween) = c.pushed (events (twoFigures ++ onePoint)) := by
  intro c
  have hbetween : Interleaving twoFigures onePoint figuresBetween :=
    .right (.left (.right (.left (.right .nil))))
  have hbefore : Interleaving twoFigures onePoint (twoFigures ++ onePoint) :=
    .left (.left (.right (.right (.right .nil))))
  have hprogress : ∀ x ∈ twoFigures, ∃ m, x.2 = .progress m := by
    intro x hx
    simp only [twoFigures, List.mem_cons, List.not_mem_nil, or_false] at hx
    rcases hx with rfl | rfl <;> exact ⟨_, rfl⟩
  have hothers : ∀ y ∈ onePoint, y.2.report? = none := by
    intro y hy
    simp only [onePoint, List.mem_cons, List.not_mem_nil, or_false] at hy
    rcases hy with rfl | rfl | rfl <;> rfl
  exact ⟨⟨hbetween, hbefore⟩, run_interleaving hprogress hothers hbetween hbefore c⟩

end Console

end NetGauge
