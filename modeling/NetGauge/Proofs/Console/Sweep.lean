import Mathlib.Data.List.DropRight
import NetGauge.Link.Handle
import NetGauge.Proofs.Console.Signals

set_option autoImplicit false

/-! # The points of a sweep over a whole run

A sweep may be asked for, announced, told of in the middle, stopped, cut off from its backend or come
to an end that was not expected, in any order. Its points are none the worse for it: what is recorded
after any run are the points that came since the last announcement, completion or reset, each as often
as it came and in that order (`run_recorded`). So a completion ends the sweep with exactly these as its
results, and takes the results that the backend reports only where no point has come
(`run_sweepComplete`). -/

namespace NetGauge

namespace Signal

/-- The points that came before an announcement, a completion or a reset belong to another sweep. -/
def parts : Signal → Bool
  | reset | event (.sweepStarted _) | event (.sweepComplete _) => true
  | _ => false

/-- The point that a signal brings. -/
def point? : Signal → Option SweepPoint
  | event (.sweepPoint point) => some point
  | _ => none

end Signal

/-- The points that came since sweeps were last parted, in the order of their arrival. -/
def sweepPoints (signals : List Signal) : List SweepPoint :=
  (signals.rtakeWhile (fun x => !x.parts)).filterMap Signal.point?

theorem sweepPoints_of_parts (signals : List Signal) {x : Signal} (h : x.parts = true) :
    sweepPoints (signals ++ [x]) = [] := by
  simp [sweepPoints, h]

theorem sweepPoints_of_not_parts (signals : List Signal) {x : Signal} (h : x.parts = false) :
    sweepPoints (signals ++ [x]) = sweepPoints signals ++ x.point?.toList := by
  rw [sweepPoints, List.rtakeWhile_concat_pos _ _ _ (by simp [h]), List.filterMap_append, sweepPoints]
  cases hpoint : x.point? <;> simp [hpoint]

section

variable {s : ClientState} {past : List Signal}

/-- An event does to the recorded points what it says of them. -/
theorem recorded_dispatch (h : s.sweep.recorded = sweepPoints past) (label : String) (e : Event) :
    (s.dispatch label e).1.sweep.recorded = sweepPoints (past ++ [.event e]) := by
  rw [s.sweep_dispatch label e]
  cases e with
  | sweepStarted _ | sweepComplete _ => rw [sweepPoints_of_parts _ rfl]; rfl
  | sweepPoint point =>
      rw [sweepPoints_of_not_parts _ rfl, ← h]
      exact s.sweep.recorded_record point
  | sweepProgress p =>
      rw [sweepPoints_of_not_parts _ rfl, ← h]
      simp [Signal.point?]
  | _ =>
      rw [sweepPoints_of_not_parts _ rfl, ← h]
      exact (List.append_nil _).symm

/-- A change that signals nothing leaves the sweep alone. -/
theorem sweep_apply {change : Change} (h : change.signal? = none) :
    (change.apply s).sweep = s.sweep := by
  cases change with
  | noted label level message => exact s.sweep_note label level message
  | sent intent label command => exact Console.sweep_applySent s label intent
  | modeSet _ | edited _ => rfl
  | dispatched _ _ | linked _ | reset => cases h

/-- **A change does to the recorded points what it signals,** and nothing else. -/
theorem recorded_apply (h : s.sweep.recorded = sweepPoints past) (change : Change) :
    (change.apply s).sweep.recorded = sweepPoints (past ++ change.signal?.toList) := by
  cases hsignal : change.signal? with
  | none =>
      rw [sweep_apply hsignal, Option.toList_none, List.append_nil]
      exact h
  | some x =>
      cases change with
      | dispatched label e =>
          cases hsignal
          exact recorded_dispatch h label e
      | linked connectivity =>
          cases hsignal
          rw [Option.toList_some, sweepPoints_of_not_parts _ rfl, ← h]
          exact (List.append_nil _).symm
      | reset =>
          cases hsignal
          rw [Option.toList_some, sweepPoints_of_parts _ rfl]
          rfl
      | _ => cases hsignal

theorem recorded_after (h : s.sweep.recorded = sweepPoints past) (changes : List Change) :
    (s.after changes).sweep.recorded =
      sweepPoints (past ++ changes.filterMap Change.signal?) := by
  induction changes generalizing s past with
  | nil => rw [List.filterMap_nil, List.append_nil]; exact h
  | cons change later ih =>
      have hlater : (s.after (change :: later)).sweep.recorded = _ := ih (recorded_apply h change)
      rw [hlater, List.append_assoc, List.filterMap_cons]
      cases change.signal? <;> rfl

end

namespace Console

variable {σ : Type} [CommandSink σ]

/-- After any run the recorded points are those that came since sweeps were last parted. -/
theorem run_recorded (config : ClientConfig) (sink : σ) (ops : List (String × Operation σ)) :
    ((Console.new config sink).run ops).state.sweep.recorded = sweepPoints (signals ops) := by
  have hnew : (Console.new config sink).state.sweep.recorded = sweepPoints [] := rfl
  have hafter := recorded_after hnew ((Console.new config sink).history ops)
  rwa [signals_history, List.nil_append, ← ((Console.new config sink).path_run ops).eq_after] at hafter

/-- **A sweep loses, doubles and reorders nothing.** Whatever was done to a new console before the
    backend tells that a sweep is complete: its final results are the points that came since the last
    announcement of a sweep, completion or reset, in the order of their arrival, or the reported ones
    if none came; and no sweep is in progress any more. -/
theorem run_sweepComplete (config : ClientConfig) (sink : σ) (ops : List (String × Operation σ))
    (label : String) (op : Operation σ) (reported : List SweepPoint)
    (hop : op.signal? = some (.event (.sweepComplete reported))) :
    let points := sweepPoints (signals ops)
    let sweep := ((Console.new config sink).run (ops ++ [(label, op)])).state.sweep
    sweep.final = some (if points.isEmpty then reported else points) ∧ sweep.active = none := by
  intro points sweep
  have hsweep : sweep =
      ((Console.new config sink).run ops).state.sweep.finalize reported := by
    simp only [sweep, run_append, run]
    rw [perform_of_signal? _ label hop]
    rfl
  have hrecorded := run_recorded config sink ops
  rw [hsweep, Sweep.finalize, Sweep.outcome, hrecorded]
  exact ⟨rfl, rfl⟩

/-- Two points of one size come for a sweep that is announced after a first point, told to have
    stopped and cut off from its backend. -/
def roughSweep : List (String × Operation Link.Handle) :=
  [("1", .event (.sweepPoint { payloadSize := 64 })), ("2", .event (.sweepStarted none)),
    ("3", .event (.sweepPoint { payloadSize := 128 })), ("4", .event (.testStopped none)),
    ("5", .disconnected), ("6", .connected), ("7", .event (.sweepPoint { payloadSize := 128 }))]

theorem run_sweepComplete_roughSweep :
    let point : SweepPoint := { payloadSize := 128 }
    let op : Operation Link.Handle := .event (.sweepComplete [])
    op.signal? = some (.event (.sweepComplete [])) ∧
      ((Console.new {} {}).run (roughSweep ++ [("8", op)])).state.sweep.final =
        some [point, point] := by
  intro point op
  obtain ⟨hfinal, -⟩ := run_sweepComplete {} {} roughSweep "8" op [] rfl
  have hpoints : sweepPoints (signals roughSweep) = [point, point] := rfl
  refine ⟨rfl, ?_⟩
  rw [hfinal, hpoints]
  rfl

end Console

end NetGauge
