import NetGauge.Link.Handle
import NetGauge.Proofs.Console.Counters
import NetGauge.Proofs.Console.Endings
import NetGauge.Proofs.Console.Pending
import NetGauge.Proofs.Parameters.Required

set_option autoImplicit false

/-! # A sweep that runs to its end

The user asks for a sweep over `n` sizes, the backend announces it, tells of its progress, sends one point
for each size and tells that it is complete. In between anything else may come that neither ends a run nor
begins another, in any order: messages that tell nothing of the number of sizes, or name a size that lies
ahead of the points or behind them, errors, a link that goes down, a stop that the user asks for.

Two invariants carry the argument, one for the time before the announcement and one for the time after it.
The number of sizes waits for the announcement (`ClientState.Waiting`), and from then on the counters of
the sweep are read off from what has come (`ClientState.Sweeping`): the number of sizes is `n` at every
step, for no message and no point takes the widening of the number beyond it (`Sweep.Underway`). So the
sweep ends complete (`Console.submit_fullSweep`). -/

namespace NetGauge

/-! ## The counters of a sweep of known length -/

namespace Sweep

/-- A sweep of `n` sizes is in progress, these points have come for it, and its counters agree. -/
def Underway (s : Sweep) (n : Nat) (points : List SweepPoint) : Prop :=
  ∃ p, s.active = some p ∧ p.total = n ∧ p.results = points ∧ p.Counted

/-- Nothing is widened that covers what has been reached. -/
theorem Active.widen_of_counted {p : Sweep.Active} (h : p.Counted) : p.widen = p := by
  have hresults := h.results_le.trans h.ordinal_le
  simp [widen, h.ordinal_le, hresults]

namespace Underway

variable {s : Sweep} {n : Nat} {points : List SweepPoint}

theorem of_active (h : s.active = some { total := n }) : s.Underway n [] :=
  ⟨_, h, rfl, rfl, Nat.le_refl 0, Nat.zero_le n⟩

/-- Counters that agree are not changed by widening them. -/
theorem of_widen (p : Sweep.Active) (h : s.active = some p.widen) (hcounted : p.Counted) :
    s.Underway p.total p.results := by
  rw [Active.widen_of_counted hcounted] at h
  exact ⟨p, h, rfl, rfl, hcounted⟩

/-- Told the number of sizes that it has, or nothing, a sweep goes on as it was. -/
theorem announceTotal (h : s.Underway n points) {total : Nat} (htotal : total = 0 ∨ total = n) :
    (s.announceTotal total).Underway n points := by
  obtain ⟨p, hactive, rfl, rfl, hcounted⟩ := h
  have hsame : (if 0 < total then total else p.total) = p.total := by
    rcases htotal with rfl | rfl <;> simp
  refine of_widen p ?_ hcounted
  simp only [Sweep.announceTotal, current, hactive, Option.getD_some, hsame]

/-- No size that it has takes a sweep beyond the number of its sizes. -/
theorem progress (h : s.Underway n points) (size : UInt32) {ordinal : Nat} (hordinal : ordinal ≤ n) :
    (s.progress size ordinal).Underway n points := by
  obtain ⟨p, hactive, rfl, rfl, hcounted⟩ := h
  let q : Sweep.Active := { p with currentSize := size, ordinal := max ordinal p.results.length }
  have hreached : q.ordinal ≤ q.total :=
    Nat.max_le.2 ⟨hordinal, hcounted.results_le.trans hcounted.ordinal_le⟩
  refine of_widen q ?_ ⟨Nat.le_max_right _ _, hreached⟩
  simp only [q, Sweep.progress, current, hactive, Option.getD_some]

/-- A point that there is room for comes behind the others. -/
theorem record (h : s.Underway n points) (point : SweepPoint) (hroom : points.length < n) :
    (s.record point).Underway n (points ++ [point]) := by
  obtain ⟨p, hactive, rfl, rfl, hcounted⟩ := h
  let results := p.results ++ [point]
  let q : Sweep.Active := { p with results := results, ordinal := max p.ordinal results.length }
  have hlength : results.length ≤ p.total := by
    simp only [results, List.length_append, List.length_singleton]
    exact hroom
  have hreached : q.ordinal ≤ q.total := Nat.max_le.2 ⟨hcounted.ordinal_le, hlength⟩
  refine of_widen q ?_ ⟨Nat.le_max_right _ _, hreached⟩
  simp only [q, results, Sweep.record, current, hactive, Option.getD_some]

/-- Once a point has come for each size, all sizes have been reached. -/
theorem full (h : s.Underway n points) :
    ∃ p, s.active = some p ∧ p.total = n ∧ p.results = points ∧
      (points.length = n → p.ordinal = n) := by
  obtain ⟨p, hactive, rfl, rfl, hcounted⟩ := h
  refine ⟨p, hactive, rfl, rfl, fun hall => ?_⟩
  exact Nat.le_antisymm hcounted.ordinal_le (hall ▸ hcounted.results_le)

/-- A sweep for which points have come ends with these. -/
theorem finalize (h : s.Underway n points) (hsome : points ≠ []) (reported : List SweepPoint) :
    s.finalize reported = { active := none, final := some points } := by
  obtain ⟨p, hactive, -, rfl, -⟩ := h
  simp [Sweep.finalize, outcome, recorded_of_active hactive, hsome]

end Underway

end Sweep

/-! ## What may come during a sweep -/

namespace Signal

/-- Whether a signal neither ends a run nor begins another. -/
def spares : Signal → Bool
  | event e => !e.settlesRun
  | linked _ => true
  | reset => false

/-- What a message may tell of the progress of a sweep of `n` sizes: their number or nothing, and one of
    them. -/
def Fits (n : Nat) : Signal → Prop
  | event (.sweepProgress told) =>
    (told.totalCount.value = 0 ∨ told.totalCount.value = n) ∧ told.currentIndex.value ≤ n
  | _ => True

end Signal

namespace Change

/-- Whether a stop went out. -/
def stops : Change → Bool
  | sent .stopTest _ _ => true
  | _ => false

/-- The point that a change brings. -/
def point? (change : Change) : Option SweepPoint := change.signal?.bind Signal.point?

/-- What spares a sweep does not end its run. -/
theorem not_endsRun_of_spares {change : Change} (h : ∀ x, change.signal? = some x → x.spares = true) :
    ¬change.EndsRun := by
  rintro ⟨label, e, rfl, hends⟩
  have hspares := h _ rfl
  simp [Signal.spares, Event.settlesRun, hends] at hspares

theorem ne_reset_of_spares {change : Change} (h : ∀ x, change.signal? = some x → x.spares = true) :
    change ≠ .reset := by
  rintro rfl
  cases h _ rfl

end Change

namespace ClientState

variable {s t : ClientState} {change : Change} {changes : List Change} {n : Nat}
  {points : List SweepPoint} {stopped : Bool}

/-! ## Before the announcement -/

/-- A sweep of `n` sizes that was asked for waits to be announced. -/
structure Waiting (s : ClientState) (n : Nat) : Prop where
  busy : s.session.status ≠ .idle
  pending : s.pendingSweepTotal = some n

/-- A start that goes through for a sweep leaves the sweep waiting, and a sweep has sizes. -/
theorem waiting_of_start {command : Command} (hkind : s.request.kind = .latencySweep)
    (hallowed : Intent.startTest.allowed s.request s.session = .ok command) (label : String) :
    (Console.applySent s label .startTest).Waiting s.request.msgSizes.length ∧
      s.request.msgSizes ≠ [] := by
  obtain ⟨-, hsession⟩ := Console.begin_of_sent hallowed label
  obtain ⟨-, hstart⟩ := (Intent.allowed_startTest_eq_ok_iff _ _ _).1 hallowed
  refine ⟨⟨?_, ?_⟩, ?_⟩
  · rw [hsession]
    nofun
  · rw [Console.pendingSweepTotal_applySent, hkind]
    rfl
  · have hsizes := s.request.exists_startCommand_iff.1 ⟨command, hstart⟩ .msgSizes
      (by rw [hkind]; rfl)
    intro hnone
    simp [TestRequest.passes, hnone] at hsizes

/-- Nothing that spares the sweep keeps it from waiting: while the session is busy no other sweep is
    asked for. -/
theorem Waiting.apply (h : s.Waiting n) (hallowed : change.Allowed s)
    (hspares : ∀ x, change.signal? = some x → x.spares = true) : (change.apply s).Waiting n := by
  constructor
  · intro hidle
    rcases idle_of_apply hallowed h.busy hidle with hends | hreset
    · exact Change.not_endsRun_of_spares hspares hends
    · exact Change.ne_reset_of_spares hspares hreset
  · have hsettles : change.settles = false := by
      cases change with
      | sent intent label command =>
          cases hsizes : command.sizes? with
          | none => simp [Change.settles, hsizes]
          | some sizes =>
              have hstart := (Intent.guard_of_allowed hallowed).start
                (Command.startsTest_of_sizes? hsizes)
              exact absurd hstart.2.2 h.busy
      | dispatched label e =>
          have hnot := hspares _ rfl
          simp only [Signal.spares, Event.settlesRun, Bool.not_eq_true', Bool.or_eq_false_iff] at hnot
          exact hnot.2
      | reset => exact absurd rfl (Change.ne_reset_of_spares hspares)
      | noted _ _ _ | linked _ | modeSet _ | edited _ => rfl
    rw [pendingSweepTotal_apply hallowed, hsettles]
    exact h.pending

theorem Waiting.path (h : s.Waiting n) (hpath : Path s changes t)
    (hspares : ∀ change ∈ changes, ∀ x, change.signal? = some x → x.spares = true) : t.Waiting n := by
  induction hpath with
  | nil _ => exact h
  | cons hallowed _ ih =>
      obtain ⟨hfirst, hlater⟩ := List.forall_mem_cons.1 hspares
      exact ih (h.apply hallowed hfirst) hlater

/-! ## After the announcement -/

/-- A sweep of `n` sizes is in progress, for which these points have come; `stopped` tells whether a stop
    has gone out. -/
structure Sweeping (s : ClientState) (n : Nat) (points : List SweepPoint) (stopped : Bool) : Prop where
  test : s.session.activeTest = some .latencySweep
  status : s.session.status = if stopped then .stopping else .running
  sweep : s.sweep.Underway n points

namespace Sweeping

/-- Only the session and the sweep matter. -/
theorem of_eq (h : s.Sweeping n points stopped) (htest : t.session.activeTest = s.session.activeTest)
    (hstatus : t.session.status = s.session.status) (hsweep : t.sweep = s.sweep) :
    t.Sweeping n points stopped := by
  refine ⟨htest.trans h.test, hstatus.trans h.status, ?_⟩
  rw [hsweep]
  exact h.sweep

theorem busy (h : s.Sweeping n points stopped) : s.session.status ≠ .idle := by
  rw [h.status]
  cases stopped <;> nofun

/-- A command that went out during a sweep was no start, and a stop leaves the session stopping. -/
theorem applySent (h : s.Sweeping n points stopped) {intent : Intent} {label : String}
    {command : Command} (hallowed : intent.allowed s.request s.session = .ok command) :
    (Console.applySent s label intent).Sweeping n points
      (stopped || (Change.sent intent label command).stops) := by
  have hsweep := Console.sweep_applySent s label intent
  cases intent with
  | startTest =>
      obtain ⟨hcan, -⟩ := (Intent.allowed_startTest_eq_ok_iff _ _ _).1 hallowed
      exact absurd ((s.session.checkCanStart_eq_ok_iff).1 hcan).2 h.busy
  | stopTest =>
      obtain ⟨_, -, hsession⟩ := Console.requestStop_of_sent hallowed label
      refine ⟨?_, ?_, ?_⟩
      · rw [hsession]
        exact h.test
      · simp [hsession, Change.stops]
      · rw [hsweep]
        exact h.sweep
  | startServer _ | stopServer _ | refreshServerStatus | requestStats =>
      have hsession := Console.session_applySent s label
      simp only [Change.stops, Bool.or_false]
      exact h.of_eq (by rw [hsession]) (by rw [hsession]) hsweep

/-- An event that spares the sweep leaves the session alone, and brings the sweep a point at most. -/
theorem dispatch (h : s.Sweeping n points stopped) (label : String) {e : Event}
    (hspares : (Signal.event e).spares = true) (hfits : (Signal.event e).Fits n)
    (hroom : (points ++ (Signal.event e).point?.toList).length ≤ n) :
    (s.dispatch label e).1.Sweeping n (points ++ (Signal.event e).point?.toList) stopped := by
  have hnot : e.settlesRun = false := by simpa [Signal.spares] using hspares
  have hsession : (s.dispatch label e).1.session = s.session := by
    have htold : (s.dispatch label e).1.session = s.session.told e := s.session_dispatch label e
    rw [htold, Session.told_of_not_settlesRun hnot]
  refine ⟨by rw [hsession]; exact h.test, by rw [hsession]; exact h.status, ?_⟩
  rw [s.sweep_dispatch label e]
  cases e with
  | sweepStarted _ | sweepComplete _ => cases hspares
  | sweepProgress told =>
      rw [show (Signal.event (.sweepProgress told)).point?.toList = [] from rfl, List.append_nil]
      exact (h.sweep.announceTotal hfits.1).progress told.currentSize hfits.2
  | sweepPoint point =>
      rw [Signal.point?, Option.toList_some, List.length_append, List.length_singleton] at hroom
      exact h.sweep.record point hroom
  | _ =>
      simp only [Signal.point?, Option.toList_none, List.append_nil]
      exact h.sweep

/-- **Nothing that spares a sweep and fits it breaks the invariant,** as long as there is room for the
    point that it brings. -/
theorem apply (h : s.Sweeping n points stopped) (hallowed : change.Allowed s)
    (hfits : ∀ x, change.signal? = some x → x.spares = true ∧ x.Fits n)
    (hroom : (points ++ change.point?.toList).length ≤ n) :
    (change.apply s).Sweeping n (points ++ change.point?.toList) (stopped || change.stops) := by
  cases change with
  | dispatched label e =>
      obtain ⟨hspares, hfit⟩ := hfits _ rfl
      simp only [Change.stops, Bool.or_false]
      exact h.dispatch label hspares hfit hroom
  | sent intent label command =>
      simp only [Change.point?, Change.signal?, Option.bind_none, Option.toList_none, List.append_nil]
      exact h.applySent hallowed
  | noted label level message =>
      simp only [Change.point?, Change.signal?, Option.bind_none, Option.toList_none, List.append_nil,
        Change.stops, Bool.or_false]
      exact h.of_eq (by rw [Change.apply, session_note]) (by rw [Change.apply, session_note])
        (s.sweep_note label level message)
  | linked _ | modeSet _ | edited _ =>
      simp only [Change.point?, Change.signal?, Signal.point?, Option.bind_none, Option.bind_some,
        Option.toList_none, List.append_nil, Change.stops, Bool.or_false]
      exact h.of_eq rfl rfl rfl
  | reset => cases (hfits _ rfl).1

/-- The same along a path, whose points must all find room. The induction follows the path; the points
    of its first change and those of the rest share the room. -/
theorem path (h : s.Sweeping n points stopped) (hpath : Path s changes t)
    (hfits : ∀ change ∈ changes, ∀ x, change.signal? = some x → x.spares = true ∧ x.Fits n)
    (hroom : (points ++ changes.filterMap Change.point?).length ≤ n) :
    t.Sweeping n (points ++ changes.filterMap Change.point?) (stopped || changes.any Change.stops) := by
  induction hpath generalizing points stopped with
  | nil _ => simpa using h
  | @cons s t change later hallowed _ ih =>
      obtain ⟨hfirst, hlater⟩ := List.forall_mem_cons.1 hfits
      have hsplit : points ++ (change :: later).filterMap Change.point? =
          (points ++ change.point?.toList) ++ later.filterMap Change.point? := by
        rw [List.filterMap_cons, List.append_assoc]
        cases change.point? <;> rfl
      rw [hsplit] at hroom ⊢
      have hfree : (points ++ change.point?.toList).length ≤ n := by
        rw [List.length_append] at hroom
        exact (Nat.le_add_right _ _).trans hroom
      have hend := ih (h.apply hallowed hfirst hfree) hlater hroom
      rwa [Bool.or_assoc] at hend

end Sweeping

end ClientState

namespace Console

variable {σ : Type}

/-- The points that operations bring, in the order of their arrival. -/
def points (ops : List (String × Operation σ)) : List SweepPoint :=
  (signals ops).filterMap Signal.point?

variable [CommandSink σ]

/-- Among the operations a stop is submitted, and it is accepted. -/
def StopAccepted (c : Console σ) : List (String × Operation σ) → Prop
  | [] => False
  | (label, op) :: rest =>
    (op = .submit .stopTest ∧ (c.submit .stopTest label).1 = .ok ()) ∨
      (c.perform label op).StopAccepted rest

/-! ## Stops in a history -/

theorem stops_submitted (c : Console σ) (intent : Intent) (label : String) :
    (c.submitted label intent).stops = true ↔
      intent = .stopTest ∧ (c.submit intent label).1 = .ok () := by
  have hsub := c.submission intent label
  generalize c.submit intent label = result at hsub ⊢
  cases hsub with
  | sent command sink henc hsend =>
      have hmade : c.submitted label intent = .sent intent label command := by
        simp [submitted, henc, hsend]
      rw [hmade]
      cases intent <;> simp [Change.stops]
  | refused command e sink henc hsend => simp [submitted, henc, hsend, Change.stops]
  | rejected r henc => simp [submitted, henc, Change.stops]

omit [CommandSink σ] in
/-- Only the submission of a stop plans one. -/
theorem plan_intent_eq_stopTest_iff (c : Console σ) (label : String) (op : Operation σ) :
    (c.plan label op).intent = some .stopTest ↔ op = .submit .stopTest := by
  have hevent (e : Event) : (c.state.planEvent label e).intent ≠ some .stopTest := by
    rw [ClientState.planEvent_intent]
    split <;> nofun
  have hedit (edit : TestRequest → TestRequest) :
      (c.state.planEdit label edit).intent ≠ some .stopTest := by
    unfold ClientState.planEdit
    split <;> nofun
  cases op with
  | submit intent => simp [plan, Operation.plan]
  | setMode mode =>
      simp only [plan, Operation.plan, ClientState.planMode]
      split <;> simp
  | selectTest kind => simpa [plan, Operation.plan] using hedit _
  | configure edit => simpa [plan, Operation.plan] using hedit edit
  | payload text =>
      simp only [plan, Operation.plan, ClientState.planPayload]
      split
      · next e _ => simpa using hevent e
      · simp
  | event e => simpa [plan, Operation.plan] using hevent e
  | record _ _ | reset | connected | disconnected | sinkChanged _ => simp [plan, Operation.plan]

/-- Of the changes that an operation makes, only that of a stop that is submitted and accepted is a
    stop. -/
theorem any_stops_changes (c : Console σ) (label : String) (op : Operation σ) :
    (c.changes label op).any Change.stops = true ↔
      op = .submit .stopTest ∧ (c.submit .stopTest label).1 = .ok () := by
  have hplan : (c.plan label op).changes.any Change.stops = false := by
    rw [List.any_eq_false]
    intro change hmem hstops
    have hnone := List.filterMap_eq_nil_iff.1 (commands_plan c.state label c.reconnectDelayMs op)
      change hmem
    cases change with
    | sent _ _ _ => cases hnone
    | _ => cases hstops
  rw [changes, List.any_append, hplan, Bool.false_or, ← c.plan_intent_eq_stopTest_iff label op]
  cases hintent : (c.plan label op).intent with
  | none => simp [pursued]
  | some intent =>
      simp only [pursued, List.any_cons, List.any_nil, Bool.or_false, stops_submitted,
        Option.some.injEq]
      refine and_congr_right ?_
      rintro rfl
      -- A submission plans no changes of its own, so the console that it is made to is the one before.
      obtain rfl := (c.plan_intent_eq_stopTest_iff label op).1 hintent
      rfl

theorem any_stops_history (c : Console σ) (ops : List (String × Operation σ)) :
    (c.history ops).any Change.stops = true ↔ c.StopAccepted ops := by
  induction ops generalizing c with
  | nil => simp [history, StopAccepted]
  | cons head rest ih =>
      obtain ⟨label, op⟩ := head
      rw [history, List.any_append, Bool.or_eq_true, any_stops_changes, ih, StopAccepted]

/-! ## The whole sweep -/

theorem points_history (c : Console σ) (ops : List (String × Operation σ)) :
    (c.history ops).filterMap Change.point? = points ops := by
  rw [points, ← c.signals_history ops, List.filterMap_filterMap]
  rfl

/-- What holds of the signals of operations holds of what the changes of a run signal. -/
theorem forall_signal?_history (c : Console σ) {ops : List (String × Operation σ)} {P : Signal → Prop}
    (h : ∀ x ∈ signals ops, P x) : ∀ change ∈ c.history ops, ∀ x, change.signal? = some x → P x := by
  rwa [← c.signals_history ops, List.forall_mem_filterMap] at h

/-- The announcement of a sweep that waits for it. -/
theorem sweeping_of_sweepStarted (c : Console σ) {n : Nat} (h : c.state.Waiting n) (label : String)
    (message : Option String) :
    (c.handleEvent label (.sweepStarted message)).state.Sweeping n [] false := by
  have hsession : (c.handleEvent label (.sweepStarted message)).state.session =
      c.state.session.sweepStarted := c.session_handleEvent label (.sweepStarted message)
  refine ⟨by rw [hsession]; rfl, by rw [hsession]; rfl, ?_⟩
  have hactive := c.active_sweepStarted label message
  rw [h.pending, Option.getD_some] at hactive
  exact .of_active hactive

/-- A sweep in progress after operations that spare it and fit it. -/
theorem sweeping_run (c : Console σ) {n : Nat} (h : c.state.Sweeping n [] false)
    {ops : List (String × Operation σ)} (hfits : ∀ x ∈ signals ops, x.spares = true ∧ x.Fits n)
    (hroom : (points ops).length ≤ n) :
    (c.run ops).state.Sweeping n (points ops) ((c.history ops).any Change.stops) := by
  have hend := h.path (c.path_run ops) (c.forall_signal?_history hfits) (by rwa [c.points_history])
  rwa [c.points_history] at hend

/-- The completion of a sweep for which points have come. -/
theorem idle_of_sweepComplete (c : Console σ) {n : Nat} {points : List SweepPoint} {stopped : Bool}
    (h : c.state.Sweeping n points stopped) (hsome : points ≠ []) (label : String)
    (reported : List SweepPoint) :
    let after := (c.handleEvent label (.sweepComplete reported)).state
    after.session.status = .idle ∧ after.session.activeTest = none ∧
      after.sweep = { active := none, final := some points } := by
  intro after
  have hsession : after.session = c.state.session.finish :=
    c.session_handleEvent label (.sweepComplete reported)
  have hsweep : after.sweep = c.state.sweep.finalize reported :=
    (c.sweep_handleEvent label _).trans (c.state.sweep_dispatch label _)
  refine ⟨by rw [hsession]; rfl, by rw [hsession]; rfl, ?_⟩
  rw [hsweep, h.sweep.finalize hsome]

/-- **A full sweep ends complete.** Let the start of a sweep over `n` sizes be accepted, and let nothing
    come before its announcement that ends a run, announces a sweep or forgets the run. From the
    announcement on, let the same hold, let what is told of the progress name the number of sizes or none
    and one of the sizes, and let `n` points come, of whatever sizes and in whatever order. Then at every
    step there are `n` sizes, the points are those that have come, and the sweep is running, or stopping
    once a stop has been accepted; once all points have come, all sizes have been reached. And a completion
    leaves the session idle and the points as the final results, whatever it reports. -/
theorem submit_fullSweep (c : Console σ) (label : String)
    {waiting sweeping : List (String × Operation σ)}
    (hkind : c.state.request.kind = .latencySweep) (haccepted : (c.submit .startTest label).1 = .ok ())
    (hwaiting : ∀ x ∈ signals waiting, x.spares = true)
    (hsweeping : ∀ x ∈ signals sweeping,
      x.spares = true ∧ x.Fits c.state.request.msgSizes.length)
    (hpoints : (points sweeping).length = c.state.request.msgSizes.length) (announced : String)
    (message : Option String) :
    let n := c.state.request.msgSizes.length
    let begun := ((c.submit .startTest label).2.run waiting).handleEvent announced
      (.sweepStarted message)
    (∀ before, before <+: sweeping →
      let now := (begun.run before).state
      (∃ p, now.sweep.active = some p ∧ p.total = n ∧ p.results = points before ∧
        (p.results.length = n → p.ordinal = n)) ∧
      now.session.activeTest = some .latencySweep ∧
      (begun.StopAccepted before → now.session.status = .stopping) ∧
      (¬begun.StopAccepted before → now.session.status = .running)) ∧
    ∀ completed reported,
      let after := ((begun.run sweeping).handleEvent completed (.sweepComplete reported)).state
      after.session.status = .idle ∧ after.session.activeTest = none ∧
        after.sweep = { active := none, final := some (points sweeping) } := by
  intro n begun
  obtain ⟨⟨command, hallowed⟩, hstarted⟩ := c.allowed_of_submit_ok .startTest label haccepted
  obtain ⟨hwaits, hsizes⟩ := ClientState.waiting_of_start hkind hallowed label
  rw [← hstarted] at hwaits
  have hstill := hwaits.path ((c.submit .startTest label).2.path_run waiting)
    (forall_signal?_history _ hwaiting)
  have hbegun : begun.state.Sweeping n [] false := sweeping_of_sweepStarted _ hstill announced message
  have hrun (before) (hfront : before <+: sweeping) :
      (begun.run before).state.Sweeping n (points before)
        ((begun.history before).any Change.stops) := by
    have hsignals : signals before <+: signals sweeping := hfront.filterMap _
    have hlength : (points before).length ≤ (points sweeping).length :=
      (hsignals.filterMap Signal.point?).length_le
    exact begun.sweeping_run hbegun (fun x hx => hsweeping x (hsignals.subset hx))
      (hlength.trans hpoints.le)
  refine ⟨fun before hfront => ?_, fun completed reported => ?_⟩
  · have hnow := hrun before hfront
    obtain ⟨p, hactive, htotal, hresults, hfull⟩ := hnow.sweep.full
    refine ⟨⟨p, hactive, htotal, hresults, fun hall => hfull (hresults ▸ hall)⟩, hnow.test, ?_, ?_⟩
    · intro hstop
      rw [hnow.status, (begun.any_stops_history before).2 hstop]
      rfl
    · intro hnone
      rw [hnow.status, if_neg (mt (begun.any_stops_history before).1 hnone)]
  · have hsome : points sweeping ≠ [] := by
      intro hnil
      rw [hnil, List.length_nil] at hpoints
      exact hsizes (List.length_eq_zero_iff.1 hpoints.symm)
    exact (begun.run sweeping).idle_of_sweepComplete (hrun sweeping List.prefix_rfl) hsome completed
      reported

/-- A connected console at which a sweep over two sizes is selected. -/
def twoSizes : Console Link.Handle :=
  Console.new { test := { kind := .latencySweep, msgSizes := [64, 1400] } }
    { state := .connected, outbox := some {} }

/-- Both sizes are told to be reached before a point has come, both points are of the same size, and in
    between the user asks for a stop and the backend tells of an error. -/
def twoPoints : List (String × Operation Link.Handle) :=
  [("4", .event (.sweepProgress { currentIndex := ⟨2⟩ })),
    ("5", .event (.sweepPoint { payloadSize := 1400 })), ("6", .submit .stopTest),
    ("7", .event (.error "timeout")), ("8", .event (.sweepPoint { payloadSize := 1400 })),
    ("9", .event (.sweepProgress { currentIndex := ⟨1⟩, totalCount := ⟨2⟩ }))]

theorem submit_fullSweep_twoPoints :
    let point : SweepPoint := { payloadSize := 1400 }
    let waiting : List (String × Operation Link.Handle) :=
      [("2", .event (.serverLifecycle .sockperf .started none))]
    let started := (twoSizes.submit .startTest "1").2.run waiting
    let begun := started.handleEvent "3" (.sweepStarted none)
    let after := (begun.run twoPoints).handleEvent "10" (.sweepComplete [{ payloadSize := 64 }])
    (twoSizes.submit .startTest "1").1 = .ok () ∧
      (begun.run twoPoints).state.session.status = .stopping ∧
      after.state.session.status = .idle ∧ after.state.sweep.final = some [point, point] := by
  intro point waiting started begun after
  have hwaiting : ∀ x ∈ signals waiting, x.spares = true := by decide
  have hsweeping : ∀ x ∈ signals twoPoints,
      x.spares = true ∧ x.Fits twoSizes.state.request.msgSizes.length := by
    simp [signals, twoPoints, Operation.signal?, Signal.spares, Signal.Fits, Event.settlesRun,
      Event.isTerminal, Event.announcesSweep, twoSizes, Console.new, ClientState.new]
  obtain ⟨hsteps, hend⟩ := twoSizes.submit_fullSweep "1" rfl rfl hwaiting hsweeping rfl "3" none
  obtain ⟨-, -, hstopping, -⟩ := hsteps twoPoints List.prefix_rfl
  obtain ⟨hidle, -, hsweep⟩ := hend "10" [{ payloadSize := 64 }]
  have hstop : begun.StopAccepted twoPoints := .inr (.inr (.inl ⟨rfl, rfl⟩))
  exact ⟨rfl, hstopping hstop, hidle, congrArg Sweep.final hsweep⟩

end Console

end NetGauge
