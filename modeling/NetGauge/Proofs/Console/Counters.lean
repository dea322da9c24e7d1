import NetGauge.Proofs.Console.Footprint
import NetGauge.Proofs.Console.Sweep

set_option autoImplicit false

/-! # The counters of a sweep

The backend tells how many sizes a sweep has, which of them it has come to, and the result of each, and
these need not agree: the number may shrink, the sizes come out of order, the results of a sweep come
that was never seen to start. The counters that are shown agree all the same. After any run, as many
sizes have been reached as results have come, or more, and no more than there are (`run_counted`). -/

namespace NetGauge

section

variable {s : ClientState}

/-- No event puts the counters at odds. -/
theorem counted_dispatch (h : s.sweep.Counted) (label : String) (e : Event) :
    (s.dispatch label e).1.sweep.Counted := by
  rw [s.sweep_dispatch label e]
  cases e with
  | sweepStarted _ => exact s.sweep.counted_start _
  | sweepProgress p => exact Sweep.counted_progress _ _ _
  | sweepPoint point => exact s.sweep.counted_record point
  | sweepComplete reported => exact Sweep.counted_of_inactive rfl
  | _ => exact h

/-- No change puts the counters at odds. -/
theorem counted_apply (h : s.sweep.Counted) (change : Change) :
    (change.apply s).sweep.Counted := by
  cases hsignal : change.signal? with
  | none => rwa [sweep_apply hsignal]
  | some x =>
      cases change with
      | dispatched label e => exact counted_dispatch h label e
      | linked connectivity => exact h
      | reset => exact Sweep.counted_of_inactive rfl
      | _ => cases hsignal

end

namespace Console

variable {σ : Type} [CommandSink σ]

/-- After any run the counters of a sweep in progress agree. -/
theorem run_counted (config : ClientConfig) (sink : σ) (ops : List (String × Operation σ)) :
    ((Console.new config sink).run ops).state.sweep.Counted := by
  have hnew : (Console.new config sink).state.sweep.Counted := Sweep.counted_of_inactive rfl
  exact Path.keeps (I := fun s => s.sweep.Counted) ((Console.new config sink).path_run ops)
    (fun _ change _ h => counted_apply h change) hnew

theorem sweep_handleEvent (c : Console σ) (label : String) (e : Event) :
    (c.handleEvent label e).state.sweep = (c.state.dispatch label e).1.sweep := by
  obtain ⟨log, hstate⟩ := c.state_handleEvent label e
  rw [hstate]

/-- **The counters of a sweep agree,** whatever was done to a new console and whatever the backend told
    it: of a sweep in progress no more points have come than sizes have been reached, and no more sizes
    have been reached than there are. A point that comes next is one more point. A message about the
    progress that comes next, whatever it tells, leaves the points alone and does not take the number of
    sizes below theirs. -/
theorem run_sweepCounters (config : ClientConfig) (sink : σ) (ops : List (String × Operation σ)) :
    let c := (Console.new config sink).run ops
    (∀ p, c.state.sweep.active = some p → p.results.length ≤ p.ordinal ∧ p.ordinal ≤ p.total) ∧
    (∀ label point, ∃ p, (c.handleEvent label (.sweepPoint point)).state.sweep.active = some p ∧
      p.results.length = c.state.sweep.recorded.length + 1) ∧
    (∀ label told, ∃ p, (c.handleEvent label (.sweepProgress told)).state.sweep.active = some p ∧
      p.results = c.state.sweep.recorded ∧ c.state.sweep.recorded.length ≤ p.total) := by
  intro c
  have hcounted := run_counted config sink ops
  refine ⟨fun p hactive => ?_, fun label point => ?_, fun label told => ?_⟩
  · have hp := hcounted p hactive
    exact ⟨hp.results_le, hp.ordinal_le⟩
  · rw [c.sweep_handleEvent, ClientState.sweep_dispatch]
    obtain ⟨p, hactive⟩ : ∃ p, (c.state.sweep.record point).active = some p := ⟨_, rfl⟩
    refine ⟨p, hactive, ?_⟩
    rw [← Sweep.recorded_of_active hactive, Sweep.recorded_record, List.length_append,
      List.length_singleton]
  · rw [c.sweep_handleEvent, ClientState.sweep_dispatch]
    let announced := c.state.sweep.announceTotal told.totalCount.value
    obtain ⟨p, hactive⟩ : ∃ p, (announced.progress told.currentSize told.currentIndex.value).active =
      some p := ⟨_, rfl⟩
    have hp := announced.counted_progress told.currentSize told.currentIndex.value p hactive
    have hresults : p.results = c.state.sweep.recorded := by
      rw [← Sweep.recorded_of_active hactive, Sweep.recorded_progress, Sweep.recorded_announceTotal]
    refine ⟨p, hactive, hresults, ?_⟩
    rw [← hresults]
    exact hp.results_le.trans hp.ordinal_le

/-- Two points have come when the backend tells that the first of one size has been reached. -/
example :
    let point : Event := .sweepPoint { payloadSize := 64 }
    let told : Event := .sweepProgress { currentIndex := ⟨1⟩, totalCount := ⟨1⟩ }
    let c := (Console.new {} ({} : Link.Handle)).run
      [("1", .event point), ("2", .event point), ("3", .event told)]
    c.state.sweep.active.map (fun p => (p.results.length, p.ordinal, p.total)) = some (2, 2, 2) := rfl

end Console

end NetGauge
