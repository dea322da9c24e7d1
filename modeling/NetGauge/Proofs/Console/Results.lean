import NetGauge.Link.Handle
import NetGauge.Proofs.Console.Sweep

set_option autoImplicit false

/-! # How long final results last

The final results of a sweep stay until sweeps are parted again. An announcement or a reset discards them,
and a completion puts others in their place (`final_apply`). Those others may be none at all: a completion
that reports nothing, for which no point has come, is taken at its word even if no sweep was in progress.
Without announcements and resets, this is the only way in which results get lost
(`Console.run_finalResults`). -/

namespace NetGauge

/-- The results of a sweep are empty if no points came and none are reported. -/
theorem Sweep.outcome_eq_nil_iff (s : Sweep) (reported : List SweepPoint) :
    s.outcome reported = [] ↔ s.recorded = [] ∧ reported = [] := by
  unfold outcome
  split
  · next h => simp [List.isEmpty_iff.1 h]
  · next h => simp_all

namespace Signal

/-- Whether a signal discards final results. -/
def discards : Signal → Bool
  | reset | event (.sweepStarted _) => true
  | _ => false

/-- The final results that a signal leaves. -/
def results? (s : Sweep) : Signal → Option (List SweepPoint)
  | event (.sweepComplete reported) => some (s.outcome reported)
  | _ => none

/-- What parts sweeps without discarding results is a completion. -/
theorem sweepComplete_of_parts {x : Signal} (h : x.parts = true) (hkept : x.discards = false) :
    ∃ reported, x = .event (.sweepComplete reported) := by
  cases x with
  | event e =>
      cases e with
      | sweepComplete reported => exact ⟨reported, rfl⟩
      | sweepStarted _ => cases hkept
      | _ => cases h
  | linked _ => cases h
  | reset => cases hkept

end Signal

namespace Change

/-- Whether a change parts sweeps. -/
def parts (change : Change) : Bool := change.signal?.any Signal.parts

/-- Only the dispatch of an event signals an event. -/
theorem dispatched_of_signal? {change : Change} {e : Event} (h : change.signal? = some (.event e)) :
    ∃ label, change = .dispatched label e := by
  cases change with
  | dispatched label other => cases h; exact ⟨label, rfl⟩
  | _ => cases h

end Change

section

variable {s t : ClientState} {history : List Change}

/-- **A change that parts sweeps leaves its results,** and any other leaves the final results alone. -/
theorem final_apply (s : ClientState) (change : Change) :
    (change.apply s).sweep.final =
      if change.parts then change.signal?.bind (Signal.results? s.sweep) else s.sweep.final := by
  cases hsignal : change.signal? with
  | none => simp [Change.parts, hsignal, sweep_apply hsignal]
  | some x =>
      cases change with
      | dispatched label e =>
          cases hsignal
          rw [Change.apply, s.sweep_dispatch label e]
          cases e <;> rfl
      | linked connectivity => cases hsignal; rfl
      | reset => cases hsignal; rfl
      | _ => cases hsignal

/-- The final results are what the latest change that parts sweeps has left, if they have changed. -/
theorem final_eq_iff {results : Option (List SweepPoint)} (hnot : s.sweep.final ≠ results)
    (hpath : Path s history t) :
    t.sweep.final = results ↔ ∃ before change, Latest Change.parts history before change ∧
      change.signal?.bind (Signal.results? (s.after before).sweep) = results := by
  refine hpath.iff_latest (I := fun s => s.sweep.final = results)
    (B := fun s change => change.signal?.bind (Signal.results? s.sweep) = results) ?_ hnot
  intro s change _
  rw [final_apply]
  split <;> rfl

end

namespace Console

variable {σ : Type} [CommandSink σ]

/-- **Final results get lost only to a completion with empty hands.** Let a console have final results, and
    let anything be done to it but for a reset and the announcement of a sweep. Then there are final results
    all the same, and they are empty exactly if the latest completion since then reports nothing and no
    point has come for it: none since sweeps were parted before it. -/
theorem run_finalResults (config : ClientConfig) (sink : σ) (ops more : List (String × Operation σ))
    {points : List SweepPoint}
    (hfinal : ((Console.new config sink).run ops).state.sweep.final = some points)
    (hpoints : points ≠ []) (hkept : ∀ x ∈ signals more, x.discards = false) :
    let c := (Console.new config sink).run ops
    let after := (c.run more).state.sweep.final
    (∃ results, after = some results) ∧
    (after = some [] ↔ ∃ before label,
      Latest Change.parts (c.history more) before (.dispatched label (.sweepComplete [])) ∧
        sweepPoints (signals ops ++ before.filterMap Change.signal?) = []) := by
  intro c after
  have hpath := c.path_run more
  have hrecorded (before : List Change) : (c.state.after before).sweep.recorded =
      sweepPoints (signals ops ++ before.filterMap Change.signal?) :=
    recorded_after (run_recorded config sink ops) before
  -- Of the changes that part sweeps there are only completions.
  have hcompletes {before : List Change} {change : Change}
      (hlatest : Latest Change.parts (c.history more) before change) :
      ∃ label reported, change = .dispatched label (.sweepComplete reported) := by
    obtain ⟨hparts, later, hsplit, -⟩ := hlatest
    obtain ⟨x, hsignal, hx⟩ := (Option.any_eq_true _ _).1 hparts
    have hmem : x ∈ signals more := by
      rw [← signals_history c more, hsplit]
      exact List.mem_filterMap.2 ⟨change, by simp, hsignal⟩
    obtain ⟨reported, rfl⟩ := Signal.sweepComplete_of_parts hx (hkept x hmem)
    obtain ⟨label, rfl⟩ := Change.dispatched_of_signal? hsignal
    exact ⟨label, reported, rfl⟩
  refine ⟨?_, ?_⟩
  · rw [← Option.isSome_iff_exists, Option.isSome_iff_ne_none]
    intro hnone
    obtain ⟨before, change, hlatest, hleft⟩ :=
      (final_eq_iff (by rw [hfinal]; nofun) hpath).1 hnone
    obtain ⟨label, reported, rfl⟩ := hcompletes hlatest
    cases hleft
  · rw [final_eq_iff (by rw [hfinal]; simpa using hpoints) hpath]
    constructor
    · rintro ⟨before, change, hlatest, hleft⟩
      obtain ⟨label, reported, rfl⟩ := hcompletes hlatest
      obtain ⟨hnone, rfl⟩ := (Sweep.outcome_eq_nil_iff _ reported).1 (Option.some.inj hleft)
      exact ⟨before, label, hlatest, hrecorded before ▸ hnone⟩
    · rintro ⟨before, label, hlatest, hnone⟩
      refine ⟨before, _, hlatest, congrArg some ?_⟩
      exact (Sweep.outcome_eq_nil_iff _ []).2 ⟨(hrecorded before).trans hnone, rfl⟩

/-- A sweep of a single point. -/
def shortSweep : List (String × Operation Link.Handle) :=
  [("1", .event (.sweepStarted none)), ("2", .event (.sweepPoint { payloadSize := 64 })),
    ("3", .event (.sweepComplete []))]

/-- Its completion is told once more, with results, after a message about its progress that comes late. -/
theorem run_finalResults_shortSweep :
    let point : SweepPoint := { payloadSize := 64 }
    let c := (Console.new {} ({} : Link.Handle)).run shortSweep
    let more : List (String × Operation Link.Handle) :=
      [("4", .event (.sweepProgress {})), ("5", .event (.sweepComplete [point]))]
    c.state.sweep.final = some [point] ∧ (∀ x ∈ signals more, x.discards = false) ∧
      ∃ results, (c.run more).state.sweep.final = some results ∧ results ≠ [] := by
  intro point c more
  have hfinal : c.state.sweep.final = some [point] := rfl
  have hkept : ∀ x ∈ signals more, x.discards = false := by
    simp [more, signals, Signal.discards, Operation.signal?]
  obtain ⟨⟨results, hsome⟩, hempty⟩ :=
    run_finalResults {} ({} : Link.Handle) shortSweep more hfinal (List.cons_ne_nil point []) hkept
  refine ⟨hfinal, hkept, results, hsome, ?_⟩
  rintro rfl
  obtain ⟨before, label, hlatest, -⟩ := hempty.1 hsome
  have hhistory : c.history more =
      [.dispatched "4" (.sweepProgress {})] ++ [.dispatched "5" (.sweepComplete [point])] := rfl
  rw [hhistory, latest_concat_of_pos rfl] at hlatest
  cases hlatest.2

/-- The results of a sweep that are gone when its completion is told once more, without any. -/
theorem run_secondCompletion :
    let point : SweepPoint := { payloadSize := 64 }
    let c := (Console.new {} ({} : Link.Handle)).run shortSweep
    c.state.sweep.final = some [point] ∧
      (c.handleEvent "4" (.sweepComplete [])).state.sweep.final = some [] := ⟨rfl, rfl⟩

end Console

end NetGauge
